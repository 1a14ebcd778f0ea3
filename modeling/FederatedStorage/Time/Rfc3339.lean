import FederatedStorage.Text.Blank
import FederatedStorage.Time.Timestamp

/-!
# RFC 3339 timestamps

Timestamps are written in UTC with the suffix `Z`, with no fraction or one of three, six or nine
digits. They are read more freely than the standard asks: fields may have fewer digits, blanks may
stand around the separators and before the offset, a year may have a sign and then any number of
digits, and fraction digits behind the ninth are ignored.

## Main definitions

* `Rfc3339.write`, `Rfc3339.read?`.
-/

namespace FederatedStorage.Time.Rfc3339

open FederatedStorage.Text

/-! ## Writing -/

/-- A number with leading zeros. -/
def padded (width n : Nat) : List Char :=
  let ds := (toString n).toList
  List.replicate (width - ds.length) '0' ++ ds

/-- A year: four digits, or a sign and at least four. -/
def yearChars (year : Int) : List Char :=
  if 0 ≤ year ∧ year ≤ 9999 then padded 4 year.toNat
  else (if year < 0 then '-' else '+') :: padded 4 year.natAbs

/-- The fraction of a second, in groups of three digits. -/
def fractionChars (nano : Nat) : List Char :=
  if nano == 0 then []
  else if nano % 1000000 == 0 then '.' :: padded 3 (nano / 1000000)
  else if nano % 1000 == 0 then '.' :: padded 6 (nano / 1000)
  else '.' :: padded 9 nano

/-- The characters of a timestamp. -/
def chars (t : Timestamp) : List Char :=
  yearChars t.date.year ++ '-' :: padded 2 t.date.month ++ '-' :: padded 2 t.date.day
    ++ 'T' :: padded 2 t.hour ++ ':' :: padded 2 t.minute ++ ':' :: padded 2 t.second
    ++ fractionChars t.nano ++ ['Z']

/-- **The text of a timestamp.** -/
def write (t : Timestamp) : String := String.ofList (chars t)

/-! ## Reading -/

/-- The value of decimal digits. -/
def digitsValue (ds : List Char) : Nat := ds.foldl (fun n d => 10 * n + (d.toNat - 0x30)) 0

/-- A number of one to `most` digits; further digits are left over. -/
def readDigits (most : Nat) (cs : List Char) : Option (Nat × List Char) :=
  let ds := (cs.take most).takeWhile Char.isDigit
  if ds.isEmpty then none else some (digitsValue ds, cs.drop ds.length)

/-- A number after blanks. -/
def readField (most : Nat) (cs : List Char) : Option (Nat × List Char) :=
  readDigits most (trimStart cs)

/-- A separator. -/
def dropChar (c : Char) : List Char → Option (List Char)
  | [] => none
  | d :: cs => if d == c then some cs else none

/-- A separator after blanks. -/
def dropSeparator (c : Char) (cs : List Char) : Option (List Char) := dropChar c (trimStart cs)

/-- A year after blanks: four digits, or a sign and any number. -/
def readYear (cs : List Char) : Option (Int × List Char) :=
  match trimStart cs with
  | '-' :: cs => (readDigits cs.length cs).map fun r => (-(r.1 : Int), r.2)
  | '+' :: cs => (readDigits cs.length cs).map fun r => ((r.1 : Int), r.2)
  | cs => (readDigits 4 cs).map fun r => ((r.1 : Int), r.2)

/-- Whether a date is kept: 262142 years on either side, and one year more before. -/
def isKept (d : Date) : Bool := -262143 ≤ d.year && d.year ≤ 262142

/-- A date. -/
def readDate (cs : List Char) : Option (Date × List Char) := do
  let (year, cs) ← readYear cs
  let cs ← dropSeparator '-' cs
  let (month, cs) ← readField 2 cs
  let cs ← dropSeparator '-' cs
  let (day, cs) ← readField 2 cs
  return (← (Date.of? year month day).filter isKept, cs)

/-- The sign between date and time. -/
def dropDateEnd : List Char → Option (List Char)
  | 'T' :: cs => some cs
  | 't' :: cs => some cs
  | ' ' :: cs => some cs
  | _ => none

/-- Nanoseconds, if there is a fraction. -/
def readFraction : List Char → Option (Nat × List Char)
  | '.' :: cs => do
    let (_, rest) ← readDigits 9 cs
    let count := cs.length - rest.length
    let nano := digitsValue (cs.take count) * Nat.pow 10 (9 - count)
    return (nano, rest.dropWhile Char.isDigit)
  | cs => some (0, cs)

/-- Two digits. -/
def readPair : List Char → Option (Nat × List Char)
  | a :: b :: cs =>
    if a.isDigit && b.isDigit then some (digitsValue [a, b], cs) else none
  | _ => none

/-- The sign of an offset: whether the place is behind UTC. A minus sign proper counts as well. -/
def readSign : List Char → Option (Bool × List Char)
  | '+' :: cs => some (false, cs)
  | '-' :: cs => some (true, cs)
  | '−' :: cs => some (true, cs)
  | _ => none

/-- An offset in minutes, less than a day. -/
def readSignedOffset (cs : List Char) : Option (Int × List Char) := do
  let (behind, cs) ← readSign cs
  let (hours, cs) ← readPair cs
  let (minutes, cs) ← readPair (cs.dropWhile fun c => c == ':' || isBlank c)
  if 60 ≤ minutes || 24 ≤ hours then none
  else
    let all : Int := hours * 60 + minutes
    return (if behind then -all else all, cs)

/-- The offset from UTC: a letter, three letters, or hours and minutes. -/
def readOffset : List Char → Option (Int × List Char)
  | 'Z' :: cs => some (0, cs)
  | 'z' :: cs => some (0, cs)
  | a :: b :: c :: cs =>
    if a.toUpper == 'U' && b.toUpper == 'T' && c.toUpper == 'C' then some (0, cs)
    else readSignedOffset (a :: b :: c :: cs)
  | cs => readSignedOffset cs

/-- A date and a time of day with its offset, with nothing but blanks behind. The date is kept both
at its place and in UTC. -/
def readChars (cs : List Char) : Option Timestamp := do
  let (date, cs) ← readDate cs
  let cs ← dropDateEnd cs
  let (hour, cs) ← readField 2 cs
  let cs ← dropSeparator ':' cs
  let (minute, cs) ← readField 2 cs
  let cs ← dropSeparator ':' cs
  let (second, cs) ← readField 2 cs
  let (nano, cs) ← readFraction cs
  let (ahead, rest) ← readOffset (trimStart cs)
  if !(trimStart rest).isEmpty then none
  else
    let t ← Timestamp.of? date hour minute second nano
    (some (t.shift ahead)).filter fun t => isKept t.date

/-- **The timestamp of a text.** -/
def read? (s : String) : Option Timestamp := readChars s.toList

end FederatedStorage.Time.Rfc3339
