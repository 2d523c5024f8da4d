import Harvest.Text.Blank
/-!
Instants of the calendar. They are read in a relaxed form of the usual notation, with an offset
that is taken away, and are written in universal time. A second of an instant may be a leap
second, which is kept.
-/

namespace Harvest

/-- A day counted from the first of January 1970, a second of the day, and the nanoseconds of
    that second; a leap second is the rest of the second before it. -/
structure Timestamp where
  day : Int
  second : Nat
  nano : Nat
  deriving DecidableEq, Repr

namespace Timestamp

def before (a b : Timestamp) : Bool :=
  a.day < b.day || (a.day = b.day && (a.second < b.second ||
    (a.second = b.second && a.nano < b.nano)))

/-! The calendar -/

/-- The number of a day; years begin in March here, so that a leap day comes last. -/
def dayNumber (year : Int) (month day : Nat) : Int :=
  let y := if month ≤ 2 then year - 1 else year
  let m := if month ≤ 2 then month + 9 else month - 3
  let era := y / 400
  let yearOfEra := y % 400
  let dayOfYear : Int := ((153 * m + 2) / 5 + day - 1 : Nat)
  era * 146097 + yearOfEra * 365 + yearOfEra / 4 - yearOfEra / 100 + dayOfYear - 719468

/-- Year, month and day of a day's number. -/
def civil (n : Int) : Int × Nat × Nat :=
  let z := n + 719468
  let era := z / 146097
  let dayOfEra := z % 146097
  let yearOfEra := (dayOfEra - dayOfEra / 1460 + dayOfEra / 36524 - dayOfEra / 146096) / 365
  let dayOfYear := (dayOfEra - (365 * yearOfEra + yearOfEra / 4 - yearOfEra / 100)).toNat
  let m := (5 * dayOfYear + 2) / 153
  let day := dayOfYear - (153 * m + 2) / 5 + 1
  let month := if m < 10 then m + 3 else m - 9
  (yearOfEra + era * 400 + (if month ≤ 2 then 1 else 0), month, day)

def isLeap (year : Int) : Bool := year % 4 = 0 && (year % 100 ≠ 0 || year % 400 = 0)

def daysIn (year : Int) (month : Nat) : Nat :=
  if month = 2 then (if isLeap year then 29 else 28)
  else if [4, 6, 9, 11].contains month then 30 else 31

def minYear : Int := -262143

def maxYear : Int := 262142

def isDate (year : Int) (month day : Nat) : Bool :=
  minYear ≤ year && year ≤ maxYear && 1 ≤ month && month ≤ 12 && 1 ≤ day && day ≤ daysIn year month

/-! Reading -/

def natOf (digits : List Char) : Nat :=
  digits.foldl (fun n c => n * 10 + (c.toNat - 48)) 0

/-- One to `width` digits. -/
def digits? (width : Nat) (s : List Char) : Option (Nat × List Char) :=
  let digits := (s.take width).takeWhile Char.isDigit
  if digits.isEmpty then none else some (natOf digits, s.drop digits.length)

def field? (width : Nat) (s : List Char) : Option (Nat × List Char) :=
  digits? width (Text.trimStart s)

/-- A year of up to four digits, or of any length behind a sign. -/
def year? (s : List Char) : Option (Int × List Char) :=
  match Text.trimStart s with
  | '-' :: r => (digits? r.length r).map fun (n, r) => (-(n : Int), r)
  | '+' :: r => (digits? r.length r).map fun (n, r) => ((n : Int), r)
  | r => (digits? 4 r).map fun (n, r) => ((n : Int), r)

def mark? (c : Char) (s : List Char) : Option (List Char) :=
  match Text.trimStart s with
  | d :: r => if d = c then some r else none
  | [] => none

/-- Nanoseconds behind a point; digits from the tenth on are dropped. -/
def fraction? (s : List Char) : Option (Nat × List Char) :=
  match s with
  | '.' :: r => do
    let (n, rest) ← digits? 9 r
    let count := r.length - rest.length
    some (n * Nat.pow 10 (9 - count), rest.dropWhile Char.isDigit)
  | _ => some (0, s)

/-- An offset in seconds. -/
def offset? (s : List Char) : Option (Int × List Char) :=
  match s with
  | c :: r =>
    if (s.take 3).map Char.toLower = "utc".toList then some (0, s.drop 3)
    else if c = 'Z' ∨ c = 'z' then some (0, r)
    else
      let sign : Option Int :=
        if c = '+' then some 1 else if c = '-' ∨ c = '\u2212' then some (-1) else none
      match sign, r with
      | some sign, h :: h' :: r =>
        if !h.isDigit || !h'.isDigit then none
        else
          match r.dropWhile fun c => c = ':' || Text.isBlank c with
          | m :: m' :: r =>
            if !m.isDigit || !m'.isDigit || '5' < m then none
            else
              let seconds : Int := (natOf [h, h'] * 3600 + natOf [m, m'] * 60 : Nat)
              if seconds < 86400 then some (sign * seconds, r) else none
          | _ => none
      | _, _ => none
  | [] => none

/-- The instant of a local time, the offset taken away. -/
def ofLocal? (year : Int) (month day hour minute second nano : Nat) (offset : Int) :
    Option Timestamp :=
  if !isDate year month day || 23 < hour || 59 < minute || 60 < second then none
  else
    let (second, nano) := if second = 60 then (59, nano + 1000000000) else (second, nano)
    let total : Int := (hour * 3600 + minute * 60 + second : Nat) - offset
    let day := dayNumber year month day + total / 86400
    let year := (civil day).1
    if year < minYear ∨ maxYear < year then none
    else some ⟨day, (total % 86400).toNat, nano⟩

def parse? (text : String) : Option Timestamp := do
  let (year, s) ← year? text.toList
  let (month, s) ← field? 2 (← mark? '-' s)
  let (day, s) ← field? 2 (← mark? '-' s)
  let s ←
    match s with
    | c :: r => if c = 'T' ∨ c = 't' ∨ c = ' ' then some r else none
    | [] => none
  let (hour, s) ← field? 2 s
  let (minute, s) ← field? 2 (← mark? ':' s)
  let (second, s) ← field? 2 (← mark? ':' s)
  let (nano, s) ← fraction? s
  let (offset, s) ← offset? (Text.trimStart s)
  if (Text.trimStart s).isEmpty then ofLocal? year month day hour minute second nano offset
  else none

/-! Writing -/

def padded (width n : Nat) : String :=
  let digits := toString n
  String.ofList (List.replicate (width - digits.length) '0') ++ digits

def yearText (year : Int) : String :=
  if 0 ≤ year ∧ year ≤ 9999 then padded 4 year.toNat
  else (if year < 0 then "-" else "+") ++ padded 4 year.natAbs

/-- The fraction of a second with three, six or nine digits, or nothing. -/
def fractionText (nano : Nat) : String :=
  if nano = 0 then ""
  else if nano % 1000000 = 0 then "." ++ padded 3 (nano / 1000000)
  else if nano % 1000 = 0 then "." ++ padded 6 (nano / 1000)
  else "." ++ padded 9 nano

def text (t : Timestamp) : String :=
  let (year, month, day) := civil t.day
  let (second, nano) :=
    if 1000000000 ≤ t.nano then (t.second % 60 + 1, t.nano - 1000000000) else (t.second % 60, t.nano)
  yearText year ++ "-" ++ padded 2 month ++ "-" ++ padded 2 day ++ "T" ++
    padded 2 (t.second / 3600) ++ ":" ++ padded 2 (t.second / 60 % 60) ++ ":" ++ padded 2 second ++
    fractionText nano ++ "Z"

end Timestamp
end Harvest
