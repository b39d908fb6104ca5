import ClusterUpgrade.Text.Blank
import ClusterUpgrade.Time.Instant

/-!
Instants as RFC 3339 texts. Reading is relaxed: years may carry a sign and more than four digits,
blanks may stand around numbers, and fraction digits after the ninth are dropped.
-/

namespace ClusterUpgrade.Instant

open Text

/-! ## Reading -/

def skipBlank (text : List Char) : List Char := text.dropWhile isBlank

/-- A number of one up to `width` digits. -/
def takeDigits? (width : Nat) (text : List Char) : Option (Nat × List Char) :=
  let run := (text.take width).takeWhile isDigit
  if run.isEmpty then none else some (ofDigits run, text.drop run.length)

/-- A number of one up to `width` digits within bounds, after blanks. -/
def takeField? (width low high : Nat) (text : List Char) : Option (Nat × List Char) := do
  let (value, rest) ← takeDigits? width (skipBlank text)
  if low ≤ value ∧ value ≤ high then some (value, rest) else none

def takeMark? (mark : Char) (text : List Char) : Option (List Char) :=
  match skipBlank text with
  | c :: rest => if c = mark then some rest else none
  | [] => none

/-- A year: at most four digits, or any number of digits after a sign. -/
def takeYear? (text : List Char) : Option (Int × List Char) :=
  match skipBlank text with
  | '-' :: rest => (takeNumber? rest).map fun (value, rest) => (-(value : Int), rest)
  | '+' :: rest => (takeNumber? rest).map fun (value, rest) => ((value : Int), rest)
  | rest => (takeDigits? 4 rest).map fun (value, rest) => ((value : Int), rest)

def takeDate? (text : List Char) : Option (Date × List Char) := do
  let (year, text) ← takeYear? text
  let (month, text) ← takeField? 2 1 12 (← takeMark? '-' text)
  let (day, text) ← takeField? 2 1 31 (← takeMark? '-' text)
  let date : Date := { year, month, day }
  if date.IsValid then some (date, text) else none

/-- The nanoseconds of a fraction after a point, zero without a point. -/
def takeFraction? : List Char → Option (Nat × List Char)
  | '.' :: rest => do
    let run := (rest.take 9).takeWhile isDigit
    if run.isEmpty then none
    else some (ofDigits run * Nat.pow 10 (9 - run.length), (rest.drop run.length).dropWhile isDigit)
  | rest => some (0, rest)

/-- Two digits as a number. -/
def twoDigits? : List Char → Option (Nat × List Char)
  | a :: b :: rest => if isDigit a && isDigit b then some (ofDigits [a, b], rest) else none
  | _ => none

/-- The minutes by which local time is ahead of universal time. -/
def takeOffset? (text : List Char) : Option (Int × List Char) :=
  match text with
  | 'Z' :: rest => some (0, rest)
  | 'z' :: rest => some (0, rest)
  | sign :: rest =>
    if (text.take 3).map Char.toUpper = ['U', 'T', 'C'] then some (0, text.drop 3)
    else if sign = '+' ∨ sign = '-' ∨ sign = '\u2212' then do
      let (hours, rest) ← twoDigits? rest
      let (minutes, rest) ← twoDigits? (rest.dropWhile fun c => c == ':' || isBlank c)
      if hours < 24 ∧ minutes < 60 then
        let ahead : Int := hours * 60 + minutes
        some (if sign = '+' then ahead else -ahead, rest)
      else none
    else none
  | [] => none

def ofChars? (text : List Char) : Option Instant := do
  let (date, text) ← takeDate? text
  let text ← match text with
    | 'T' :: rest => some rest
    | 't' :: rest => some rest
    | ' ' :: rest => some rest
    | _ => none
  let (hour, text) ← takeField? 2 0 23 text
  let (minute, text) ← takeField? 2 0 59 (← takeMark? ':' text)
  let (second, text) ← takeField? 2 0 60 (← takeMark? ':' text)
  let (nanosecond, text) ← takeFraction? text
  let (ahead, text) ← takeOffset? (skipBlank text)
  if (skipBlank text).isEmpty then
    Instant.shiftMinutes? { date, minuteOfDay := hour * 60 + minute, second, nanosecond } (-ahead)
  else none

/-- The instant that a text names. -/
def parse? (text : String) : Option Instant := ofChars? text.toList

/-! ## Writing -/

/-- A year in four digits, with a sign and at least four digits outside of 0 to 9999. -/
def yearChars (year : Int) : List Char :=
  if 0 ≤ year ∧ year ≤ 9999 then paddedDigits 4 year.toNat
  else (if 0 ≤ year then '+' else '-') :: paddedDigits 4 year.natAbs

def dateChars (date : Date) : List Char :=
  yearChars date.year ++ '-' :: paddedDigits 2 date.month ++ '-' :: paddedDigits 2 date.day

/-- A fraction of three, six or nine digits, or nothing for a whole second. -/
def fractionChars (nanosecond : Nat) : List Char :=
  if nanosecond = 0 then []
  else if nanosecond % 1000000 = 0 then '.' :: paddedDigits 3 (nanosecond / 1000000)
  else if nanosecond % 1000 = 0 then '.' :: paddedDigits 6 (nanosecond / 1000)
  else '.' :: paddedDigits 9 nanosecond

def clockChars (instant : Instant) : List Char :=
  paddedDigits 2 (instant.minuteOfDay / 60) ++ ':' :: paddedDigits 2 (instant.minuteOfDay % 60)

/-- Date and time without an offset. -/
def localChars (instant : Instant) : List Char :=
  dateChars instant.date ++ 'T' :: clockChars instant ++ ':' :: paddedDigits 2 instant.second
    ++ fractionChars instant.nanosecond

def toChars (instant : Instant) : List Char := localChars instant ++ ['Z']

/-- The text of an instant, with `Z` as offset. -/
def text (instant : Instant) : String := String.ofList (toChars instant)

/-- The text of an instant, with a numeric offset. -/
def textWithOffset (instant : Instant) : String :=
  String.ofList (localChars instant ++ "+00:00".toList)

/-- The text of an instant to the microsecond. -/
def stampText (instant : Instant) : String :=
  String.ofList (localChars { instant with nanosecond := 0 }
    ++ '.' :: paddedDigits 6 (instant.nanosecond / 1000) ++ ['Z'])

/-- Day, hour and minute for a table. -/
def shortText (instant : Instant) : String :=
  String.ofList (dateChars instant.date ++ ' ' :: clockChars instant ++ " UTC".toList)

end ClusterUpgrade.Instant
