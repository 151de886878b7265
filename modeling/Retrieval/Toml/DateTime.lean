namespace Retrieval.Toml

/-!
# Dates and times

A date, a time, or both, and with both perhaps an offset from universal time.
The text of a date and time is normalised: a `T` stands between the two, a
fraction of a second has no trailing zeros and at most nine digits, and an
offset of zero has a plus sign unless it is written `Z`.
-/

/-- A day of the calendar. -/
structure Date where
  year : Nat
  month : Nat
  day : Nat
  deriving Repr, DecidableEq

/-- A time of day, to the nanosecond. -/
structure Time where
  hour : Nat
  minute : Nat
  second : Nat
  nanosecond : Nat
  deriving Repr, DecidableEq

/-- The distance of a local time from universal time. -/
inductive Offset where
  | universal
  | minutes (value : Int)
  deriving Repr, DecidableEq

/-- A date, a time, or both. -/
inductive DateTime where
  | date (day : Date)
  | time (moment : Time)
  | both (day : Date) (moment : Time) (offset : Option Offset)
  deriving Repr, DecidableEq

/-- A number with at least a given count of digits. -/
def padded (width value : Nat) : String :=
  let digits := Nat.toDigits 10 value
  String.ofList (List.replicate (width - digits.length) '0' ++ digits)

namespace Date

/-- The year can be divided by four, and if it ends a century then by four hundred. -/
def isLeap (year : Nat) : Bool :=
  year % 4 == 0 && (year % 100 != 0 || year % 400 == 0)

/-- How many days a month has, which for February depends on the year. -/
def daysOfMonth (year month : Nat) : Nat :=
  if month = 2 then
    if isLeap year then 29 else 28
  else if month ∈ [4, 6, 9, 11] then
    30
  else
    31

/-- The date exists. -/
def isValid (date : Date) : Bool :=
  1 ≤ date.month && date.month ≤ 12
    && 1 ≤ date.day && date.day ≤ daysOfMonth date.year date.month

/-- The text of a date, its parts joined by dashes. -/
def text (date : Date) : String :=
  padded 4 date.year ++ "-" ++ padded 2 date.month ++ "-" ++ padded 2 date.day

end Date

namespace Time

/-- The time exists; a minute may have a leap second. -/
def isValid (time : Time) : Bool :=
  time.hour ≤ 23 && time.minute ≤ 59 && time.second ≤ 60

/-- The characters of a list up to its trailing zeros. -/
def dropTrailingZeros (digits : List Char) : List Char :=
  (digits.reverse.dropWhile (· = '0')).reverse

/-- The fraction of a second, left out when it is zero. -/
def fraction (time : Time) : String :=
  if time.nanosecond = 0 then
    ""
  else
    "." ++ String.ofList (dropTrailingZeros (padded 9 time.nanosecond).toList)

/-- The text of a time, its parts joined by colons. -/
def text (time : Time) : String :=
  padded 2 time.hour ++ ":" ++ padded 2 time.minute ++ ":" ++ padded 2 time.second
    ++ time.fraction

end Time

/-- The text of an offset: a letter, or a sign with hours and minutes. -/
def Offset.text : Offset → String
  | .universal => "Z"
  | .minutes value =>
      (if value < 0 then "-" else "+")
        ++ padded 2 (value.natAbs / 60) ++ ":" ++ padded 2 (value.natAbs % 60)

/-- The text of a date, a time, or both. -/
def DateTime.text : DateTime → String
  | .date day => day.text
  | .time moment => moment.text
  | .both day moment offset =>
      day.text ++ "T" ++ moment.text ++ ((offset.map Offset.text).getD "")

namespace DateTime.Reader

/-- Read a fixed count of digits as a number. -/
def digits : (count : Nat) → (total : Nat) → List Char → Option (Nat × List Char)
  | 0, total, input => some (total, input)
  | count + 1, total, c :: rest =>
      if c.isDigit then digits count (total * 10 + (c.toNat - '0'.toNat)) rest else none
  | _ + 1, _, [] => none

/-- Drop a character that must stand at the front of the input. -/
def mark (expected : Char) : List Char → Option (List Char)
  | c :: rest => if c = expected then some rest else none
  | [] => none

/-- Read a date, which must exist. -/
def date (input : List Char) : Option (Date × List Char) := do
  let (year, input) ← digits 4 0 input
  let input ← mark '-' input
  let (month, input) ← digits 2 0 input
  let input ← mark '-' input
  let (day, input) ← digits 2 0 input
  let read : Date := { year := year, month := month, day := day }
  if read.isValid then some (read, input) else none

/-- Read the fraction of a second, if there is one, to the ninth digit. -/
def fraction (input : List Char) : Nat × List Char :=
  match input with
  | '.' :: rest =>
      match rest.takeWhile Char.isDigit with
      | [] => (0, input)
      | written =>
          let kept := written.take 9
          match digits kept.length 0 kept with
          | some (total, _) =>
              (total * Nat.pow 10 (9 - kept.length), rest.dropWhile Char.isDigit)
          | none => (0, input)
  | _ => (0, input)

/-- Read a time, which has seconds. -/
def time (input : List Char) : Option (Time × List Char) := do
  let (hour, input) ← digits 2 0 input
  let input ← mark ':' input
  let (minute, input) ← digits 2 0 input
  let input ← mark ':' input
  let (second, input) ← digits 2 0 input
  let (nanosecond, input) := fraction input
  let read : Time :=
    { hour := hour, minute := minute, second := second, nanosecond := nanosecond }
  if read.isValid then some (read, input) else none

/-- Read the hours and minutes of an offset. -/
def offsetMinutes (input : List Char) : Option (Nat × List Char) := do
  let (hour, input) ← digits 2 0 input
  let input ← mark ':' input
  let (minute, input) ← digits 2 0 input
  if hour ≤ 23 ∧ minute ≤ 59 then some (hour * 60 + minute, input) else none

/-- Read an offset from universal time. -/
def offset : List Char → Option (Offset × List Char)
  | 'Z' :: rest => some (.universal, rest)
  | 'z' :: rest => some (.universal, rest)
  | '+' :: rest =>
      (offsetMinutes rest).map fun (value, rest) => (.minutes (value : Nat), rest)
  | '-' :: rest =>
      (offsetMinutes rest).map fun (value, rest) => (.minutes (-((value : Nat) : Int)), rest)
  | _ => none

/-- Read a time after a date, with its offset if it has one. -/
def timeAfter (day : Date) (input : List Char) : Option (DateTime × List Char) :=
  match input with
  | c :: rest =>
      if c = 'T' ∨ c = 't' ∨ c = ' ' then
        match time rest with
        | none => none
        | some (moment, rest) =>
            match offset rest with
            | some (distance, rest) => some (.both day moment (some distance), rest)
            | none => some (.both day moment none, rest)
      else
        none
  | [] => none

/-- Read a date with or without a time, or a time alone. -/
def dateTime (input : List Char) : Option (DateTime × List Char) :=
  match date input with
  | some (day, rest) => (timeAfter day rest).or (some (.date day, rest))
  | none => (time input).map fun (moment, rest) => (.time moment, rest)

end DateTime.Reader

end Retrieval.Toml
