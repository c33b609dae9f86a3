/-!
# Points in time

Time is counted in milliseconds since the start of 1970 in UTC. Texts are read and written in the
Internet form, a date and a time with the offset of the local clock.
-/

namespace SelfUpdate.Calendar

/-! ## Days -/

def isLeapYear (year : Int) : Bool :=
  year % 4 == 0 && (year % 100 != 0 || year % 400 == 0)

def daysInMonth (year : Int) (month : Nat) : Nat :=
  match month with
  | 2 => if isLeapYear year then 29 else 28
  | 4 | 6 | 9 | 11 => 30
  | _ => 31

/-- The day number of a date of the proleptic Gregorian calendar; day 0 is the start of 1970. Years
are counted from March, so that a leap day is the last of its year. -/
def dayNumber (year : Int) (month day : Nat) : Int :=
  let y := if month ≤ 2 then year - 1 else year
  let m : Int := ((month : Int) + 9) % 12
  let inEra := y % 400
  let ofYear := (153 * m + 2) / 5 + day - 1
  let ofEra := inEra * 365 + inEra / 4 - inEra / 100 + ofYear
  (y / 400) * 146097 + ofEra - 719468

structure Date where
  year : Int
  month : Nat
  day : Nat
  deriving DecidableEq, Repr

/-- The date of a day number. -/
def Date.ofDayNumber (number : Int) : Date :=
  let z := number + 719468
  let ofEra := z % 146097
  let inEra := (ofEra - ofEra / 1460 + ofEra / 36524 - ofEra / 146096) / 365
  let ofYear := ofEra - (365 * inEra + inEra / 4 - inEra / 100)
  let m := (5 * ofYear + 2) / 153
  let day := ofYear - (153 * m + 2) / 5 + 1
  let month := if m < 10 then m + 3 else m - 9
  let year := inEra + (z / 146097) * 400
  ⟨if month ≤ 2 then year + 1 else year, month.toNat, day.toNat⟩

/-! ## Reading -/

/-- A number of exactly `count` digits. -/
def takeNumber (count : Nat) (text : List Char) : Option (Nat × List Char) :=
  let digits := text.take count
  if digits.length = count ∧ digits.all Char.isDigit then
    some (digits.foldl (fun n d => n * 10 + (d.toNat - '0'.toNat)) 0, text.drop count)
  else none

def takeChar (wanted : Char → Bool) : List Char → Option (List Char)
  | c :: rest => if wanted c then some rest else none
  | [] => none

/-- The fraction of a second in nanoseconds; digits beyond the ninth are passed over. -/
def takeFraction (text : List Char) : Option (Nat × List Char) :=
  match text with
  | '.' :: rest =>
    let digits := rest.takeWhile Char.isDigit
    if digits.isEmpty then none
    else
      let nine := (digits ++ List.replicate 9 '0').take 9
      some (nine.foldl (fun n d => n * 10 + (d.toNat - '0'.toNat)) 0, rest.dropWhile Char.isDigit)
  | _ => some (0, text)

/-- The offset of the local clock in seconds, at most 23 hours and 59 minutes either way. -/
def takeOffset (text : List Char) : Option (Int × List Char) :=
  match text with
  | 'Z' :: rest => some (0, rest)
  | 'z' :: rest => some (0, rest)
  | sign :: rest => do
    let negative ← if sign = '+' then some false
      else if sign = '-' ∨ sign = '\u2212' then some true else none
    let (hours, rest) ← takeNumber 2 rest
    let rest ← takeChar (· == ':') rest
    let (minutes, rest) ← takeNumber 2 rest
    if minutes ≥ 60 ∨ hours ≥ 24 then none
    else
      let seconds : Int := hours * 3600 + minutes * 60
      some (if negative then -seconds else seconds, rest)
  | [] => none

/-- The milliseconds of a text such as `2024-03-01T12:00:00.5+01:00`. A letter or a blank stands
between date and time, and a sixtieth second is a leap second. -/
def parseChars (text : List Char) : Option Int := do
  let (year, rest) ← takeNumber 4 text
  let rest ← takeChar (· == '-') rest
  let (month, rest) ← takeNumber 2 rest
  let rest ← takeChar (· == '-') rest
  let (day, rest) ← takeNumber 2 rest
  let rest ← takeChar (fun c => c == 'T' || c == 't' || c == ' ') rest
  let (hour, rest) ← takeNumber 2 rest
  let rest ← takeChar (· == ':') rest
  let (minute, rest) ← takeNumber 2 rest
  let rest ← takeChar (· == ':') rest
  let (second, rest) ← takeNumber 2 rest
  let (nanoseconds, rest) ← takeFraction rest
  let (offset, rest) ← takeOffset rest
  if !rest.isEmpty then none
  else if month < 1 ∨ month > 12 ∨ day < 1 ∨ day > daysInMonth year month then none
  else if hour > 23 ∨ minute > 59 ∨ second > 60 then none
  else
    let days := dayNumber year month day
    let seconds := days * 86400 + hour * 3600 + minute * 60 + second - offset
    some (seconds * 1000 + nanoseconds / 1000000)

def parse (text : String) : Option Int := parseChars text.toList

/-! ## Writing -/

/-- A number with zeros in front up to the given width. -/
def padded (width n : Nat) : String :=
  let digits := Nat.toDigits 10 n
  String.ofList (List.replicate (width - digits.length) '0' ++ digits)

/-- Years of four digits have no sign, all others have one and at least four digits. -/
def yearText (year : Int) : String :=
  if 0 ≤ year ∧ year ≤ 9999 then padded 4 year.toNat
  else (if year < 0 then "-" else "+") ++ padded 4 year.natAbs

/-- The first and the last day that have a text. -/
def firstDay : Int := dayNumber (-262143) 1 1

def lastDay : Int := dayNumber 262142 12 31

/-- The text of a point in time in UTC. Milliseconds are written when they are not zero. -/
def format (millis : Int) : Option String :=
  let number := millis / 86400000
  if number < firstDay ∨ number > lastDay then none
  else
    let ofDay := (millis % 86400000).toNat
    let date := Date.ofDayNumber number
    let fraction := if ofDay % 1000 = 0 then "" else "." ++ padded 3 (ofDay % 1000)
    some (yearText date.year ++ "-" ++ padded 2 date.month ++ "-" ++ padded 2 date.day ++ "T" ++
      padded 2 (ofDay / 3600000) ++ ":" ++ padded 2 (ofDay / 60000 % 60) ++ ":" ++
      padded 2 (ofDay / 1000 % 60) ++ fraction ++ "+00:00")

end SelfUpdate.Calendar
