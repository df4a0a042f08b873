import TenantStorage.Text.Blank
import TenantStorage.Text.Case

/-!
# Timestamps

Date, time and offset as RFC 3339 writes them (`2024-01-31T09:30:00.5+01:00`), read with some leniency:
numbers may lack leading zeros, blanks may stand around the marks, a blank or a small letter may stand for
the `T`, and `UTC` or a small letter for the `Z`.  Years beyond four digits have a sign.

* `Timestamp` — what is written.
* `Timestamp.isPossible` — the date exists, the time exists, and the point in time is within the years that
  are told apart.
* `Timestamp.parse?` — the timestamp that a text writes.
-/

namespace TenantStorage

/-- A local date and time, and how far in seconds it is ahead of universal time. -/
structure Timestamp where
  year : Int
  month : Nat
  day : Nat
  hour : Nat
  minute : Nat
  /-- In a leap second, 60. -/
  second : Nat
  nanosecond : Nat
  offset : Int
deriving DecidableEq, Repr

namespace Timestamp

/-! ### The calendar -/

/-- Whether a year has 366 days. -/
def isLeapYear (year : Int) : Bool := year % 4 == 0 && (year % 100 != 0 || year % 400 == 0)

/-- How many days a month has. -/
def daysIn (year : Int) (month : Nat) : Nat :=
  if month = 2 then (if isLeapYear year then 29 else 28)
  else if month = 4 ∨ month = 6 ∨ month = 9 ∨ month = 11 then 30
  else 31

/-- The seconds of a day. -/
def secondsPerDay : Int := 86400

/-- The first year. -/
def firstYear : Int := -262143

/-- The last year. -/
def lastYear : Int := 262142

/-- The time of day in universal time, in seconds from the beginning of the local day: negative if it is
    still the day before there. -/
def universalSecond (t : Timestamp) : Int :=
  3600 * t.hour + 60 * t.minute + min t.second 59 - t.offset

/-- Whether universal time is still in the year before the first, or already in the year after the last. -/
def isOutside (t : Timestamp) : Bool :=
  (t.year == firstYear && t.month == 1 && t.day == 1 && t.universalSecond < 0) ||
    (t.year == lastYear && t.month == 12 && t.day == 31 && secondsPerDay ≤ t.universalSecond)

/-- Whether there is such a date, time and offset. -/
def isPossible (t : Timestamp) : Bool :=
  firstYear ≤ t.year && t.year ≤ lastYear &&
    1 ≤ t.month && t.month ≤ 12 && 1 ≤ t.day && t.day ≤ daysIn t.year t.month &&
    t.hour < 24 && t.minute < 60 && t.second ≤ 60 &&
    -secondsPerDay < t.offset && t.offset < secondsPerDay && !t.isOutside

/-! ### Reading -/

/-- A reader of the characters at the front. -/
abbrev Reader := StateT (List Char) Option

/-- Passes over blanks. -/
def blanks : Reader Unit := modify (·.dropWhile Text.isBlank)

/-- Passes over one of some characters. -/
def oneOf (choices : List Char) : Reader Char := do
  match ← get with
  | c :: rest => if choices.contains c then set rest; return c else failure
  | [] => failure

/-- The value of digits. -/
def valueOf (digits : List Char) : Nat :=
  digits.foldl (fun n c => 10 * n + (c.toNat - '0'.toNat)) 0

/-- All digits at the front, or at most `width` of them; at least one. -/
def digits (width : Option Nat) : Reader (List Char) := do
  let cs ← get
  let found := cs.takeWhile Char.isDigit
  let found := match width with
    | some n => found.take n
    | none => found
  if found.isEmpty then failure
  set (cs.drop found.length)
  return found

/-- Two digits, behind blanks; the first may be missing. -/
def field : Reader Nat := do
  blanks
  return valueOf (← digits (some 2))

/-- A mark between fields, behind blanks. -/
def mark (c : Char) : Reader Unit := do
  blanks
  discard <| oneOf [c]

/-- A year: up to four digits, or a sign and any number of digits. -/
def signedYear : Reader Int := do
  blanks
  match (← get).head? with
  | some '-' => discard <| oneOf ['-']; return -(valueOf (← digits none) : Int)
  | some '+' => discard <| oneOf ['+']; return valueOf (← digits none)
  | _ => return valueOf (← digits (some 4))

/-- The fraction of a second, in nanoseconds; digits after the ninth do not count. -/
def fraction : Reader Nat := do
  if (← get).head? != some '.' then return 0
  discard <| oneOf ['.']
  let found := (← digits none).take 9
  return valueOf (found ++ List.replicate (9 - found.length) '0')

/-- Exactly two digits. -/
def pair : Reader Nat := do
  let found ← digits (some 2)
  if found.length < 2 then failure
  return valueOf found

/-- Hours and minutes ahead of universal time, in seconds. -/
def zone : Reader Int := do
  let sign ← oneOf ['+', '-', '\u2212']
  let hours ← pair
  modify (·.dropWhile fun c => c == ':' || Text.isBlank c)
  let minutes ← pair
  if 60 ≤ minutes then failure
  let seconds : Int := 3600 * hours + 60 * minutes
  return if sign == '+' then seconds else -seconds

/-- The offset: the letter for universal time, its name, or hours and minutes. -/
def ahead : Reader Int := do
  let cs ← get
  if (cs.take 3).map Text.lowerChar == ['u', 't', 'c'] then
    set (cs.drop 3)
    return 0
  else match cs with
    | 'Z' :: rest | 'z' :: rest => set rest; return 0
    | _ => zone

/-- A timestamp, possible or not. -/
def reader : Reader Timestamp := do
  let year ← signedYear
  mark '-'
  let month ← field
  mark '-'
  let day ← field
  discard <| oneOf ['t', 'T', ' ']
  let hour ← field
  mark ':'
  let minute ← field
  mark ':'
  let second ← field
  let nanosecond ← fraction
  blanks
  let offset ← ahead
  blanks
  return { year, month, day, hour, minute, second, nanosecond, offset }

/-- The timestamp that a text writes, if there is such a time. -/
def parse? (text : String) : Option Timestamp :=
  match reader.run text.toList with
  | some (t, []) => if t.isPossible then some t else none
  | _ => none

end Timestamp

end TenantStorage
