/-
Wall-clock times as the validators read them.

`parseIso8601Time` is the reader used by every engine that evaluates a
certificate or a revocation answer at a given moment.  It is a `sscanf` with the
format `%4d-%2d-%2dT%2d:%2d:%2d%c` followed by a search for a zone offset, so it
inherits what `sscanf` does: white space and a sign are accepted before a
number, and anything may follow the seconds.  Times are seconds since the epoch.
-/
import Tamga.Basic

namespace Tamga.IsoTime

/-! ### The `sscanf` directives of the format -/

/-- `%<width>d`: white space, an optional sign that counts towards the width,
then at least one digit. -/
def scanInt (width : Nat) (s : List Char) : Option (Int × List Char) :=
  let s := s.dropWhile isSpace
  let signed := match s with
    | '-' :: t => (true, t, width - 1)
    | '+' :: t => (false, t, width - 1)
    | _ => (false, s, width)
  let digits := (signed.2.1.take signed.2.2).takeWhile isDigit
  if digits = [] then none
  else
    let n : Int := digits.foldl (fun acc c => acc * 10 + digitValue c) 0
    some (if signed.1 then -n else n, signed.2.1.drop digits.length)

def scanChar (c : Char) : List Char → Option (List Char)
  | x :: t => if x = c then some t else none
  | [] => none

/-- What `c_str()` shows of a string: everything before the first NUL. -/
def cStr (s : List Char) : List Char := s.takeWhile (· ≠ '\x00')

/-- A broken-down time; the fields are unchecked. -/
structure Civil where
  year : Int
  month : Int
  day : Int
  hour : Int
  minute : Int
  second : Int

/-- The six numbers of the format, with what `%c` reads after them. -/
def scanCivil (s : List Char) : Option (Civil × Option Char) := do
  let (year, s) ← scanInt 4 s
  let s ← scanChar '-' s
  let (month, s) ← scanInt 2 s
  let s ← scanChar '-' s
  let (day, s) ← scanInt 2 s
  let s ← scanChar 'T' s
  let (hour, s) ← scanInt 2 s
  let s ← scanChar ':' s
  let (minute, s) ← scanInt 2 s
  let s ← scanChar ':' s
  let (second, s) ← scanInt 2 s
  pure (⟨year, month, day, hour, minute, second⟩, s.head?)

/-! ### `timegm` -/

/-- Days before 1 January of the given year, counted from the epoch. -/
def daysBeforeYear (y : Int) : Int :=
  365 * (y - 1970) + (y - 1969) / 4 - (y - 1901) / 100 + (y - 1601) / 400

def isLeap (y : Int) : Bool := y % 4 == 0 && (y % 100 != 0 || y % 400 == 0)

/-- Days before the first of the month `m` (0 for January) in a common year. -/
def daysBeforeMonth (m : Int) : Int :=
  [0, 31, 59, 90, 120, 151, 181, 212, 243, 273, 304, 334].getD m.toNat 0

/-- `timegm`: months outside `0..11` carry into the year, every other field is
simply added up. -/
def timegm (c : Civil) : Int :=
  let mon := c.month - 1
  let year := c.year + mon / 12
  let mon := mon % 12
  let days := daysBeforeYear year + daysBeforeMonth mon +
    (if isLeap year && decide (2 ≤ mon) then 1 else 0) + (c.day - 1)
  days * 86400 + c.hour * 3600 + c.minute * 60 + c.second

/-! ### The zone offset -/

/-- `%2d:%2d` after the sign: the hours decide, the minutes are optional. -/
def scanOffset (s : List Char) : Option Int := do
  let (hours, s) ← scanInt 2 s
  let minutes := ((scanChar ':' s).bind (scanInt 2)).elim 0 Prod.fst
  pure (hours * 3600 + minutes * 60)

/-- The correction for a zone that is not `Z`: the first sign after the first
`T` of the text starts it. -/
def zoneCorrection (text : List Char) : Int :=
  match (text.dropWhile (· ≠ 'T')).tail.dropWhile (fun c => c ≠ '+' && c ≠ '-') with
  | sign :: rest =>
    match scanOffset (cStr rest) with
    | some offset => if sign = '+' then -offset else offset
    | none => 0
  | [] => 0

def parseIso8601Time (text : String) : Option Int :=
  match scanCivil (cStr text.toList) with
  | none => none
  | some (civil, z) =>
    let t := timegm civil
    -- `timegm` reports failure as -1, so the second before the epoch is refused
    if t = -1 then none
    else match z with
      | some c => if c = 'Z' || c = 'z' then some t else some (t + zoneCorrection text.toList)
      | none => some t

example : parseIso8601Time "1970-01-02T00:00:01Z" = some 86401 := by decide

example : parseIso8601Time "2024-03-01T02:00:00+02:00" = some 1709251200 := by decide

end Tamga.IsoTime
