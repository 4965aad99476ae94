import HostAccounts.Calendar.Date
import HostAccounts.Database.Dump
import HostAccounts.Text.Blank
import HostAccounts.Text.Numeral

/-!
# Expiry

The day on which an account ends, as the host stores it (a day count, where zero and below mean
that there is none) and as people write it (`YYYY-MM-DD`, or the day count). Writing a date and
reading it back gives the same date.
-/

set_option autoImplicit false

namespace HostAccounts

/-! ## Written dates -/

namespace Date

/-- The year with at least four digits; a sign stands in front of it outside 0 to 9999. -/
def yearText (year : Int) : String :=
  if 0 ≤ year ∧ year ≤ 9999 then Text.padded 4 year.toNat
  else (if year < 0 then "-" else "+") ++ Text.padded 4 year.natAbs

/-- The date as `YYYY-MM-DD`. -/
def written (d : Date) : String :=
  yearText d.year ++ "-" ++ Text.padded 2 d.month ++ "-" ++ Text.padded 2 d.day

/-- A row of at least one and at most `width` digits, and what follows it. -/
def takeNumber? (width : Option Nat) (cs : List Char) : Option (Nat × List Char) :=
  let run := cs.takeWhile Char.isDigit
  let digits := match width with
    | some w => run.take w
    | none => run
  (Text.digits? 10 digits).map fun n => (n, cs.drop digits.length)

/-- A year: four digits at most, or any number of them behind a sign. -/
def takeYear? (cs : List Char) : Option (Int × List Char) :=
  match Text.dropLeading Text.isBlank cs with
  | '-' :: rest => (takeNumber? none rest).map fun (n, rest) => (-Int.ofNat n, rest)
  | '+' :: rest => (takeNumber? none rest).map fun (n, rest) => (Int.ofNat n, rest)
  | rest => (takeNumber? (some 4) rest).map fun (n, rest) => (Int.ofNat n, rest)

/-- A month or a day of one or two digits, behind a hyphen. -/
def takePart? (cs : List Char) : Option (Nat × List Char) :=
  match cs with
  | '-' :: rest => takeNumber? (some 2) (Text.dropLeading Text.isBlank rest)
  | _ => none

/-- Reads `YYYY-MM-DD`; blanks may stand in front of each number, and nothing behind the last. -/
def ofWritten? (s : String) : Option Date := do
  let (year, rest) ← takeYear? s.toList
  let (month, rest) ← takePart? rest
  let (day, rest) ← takePart? rest
  if rest.isEmpty then ofParts? year month day else none

end Date

/-! ## Expiry -/

/-- When an account ends. -/
inductive Expiry where
  | never
  | on (date : Date)
  deriving DecidableEq

namespace Expiry

/-- The expiry with the day count; one that is not positive means that there is none. -/
def ofDays (days : Int) : Except RowDefect Expiry :=
  if days ≤ 0 then .ok never
  else
    match Date.ofDayNumber? days with
    | some date => .ok (on date)
    | none => .error (.expiryOutOfRange days)

/-- The expiry in a field of a row; an empty field means that there is none. -/
def ofField (field : String) : Except RowDefect Expiry :=
  if field.isEmpty then .ok never
  else
    match Text.readInt64? field with
    | some days => ofDays days
    | none => .error (.notANumber "expiry" field)

/-- The day count; zero if there is no end. -/
def days : Expiry → Int
  | never => 0
  | on date => date.dayNumber

/-- The date, if there is one. -/
def date? : Expiry → Option Date
  | never => none
  | on date => some date

/-- The end has come. -/
def hasPassed (e : Expiry) (today : Date) : Bool :=
  match e with
  | never => false
  | on date => date.isOnOrBefore today

end Expiry

/-- Reads the date on which an account is to end: `YYYY-MM-DD`, or a positive day count. -/
def Date.ofRequest (s : String) : Except RowDefect Date :=
  let value := Text.trim s
  match Date.ofWritten? value with
  | some date => .ok date
  | none =>
    match Text.readInt64? value with
    | none => .error (.neitherDateNorCount value)
    | some days =>
      match Expiry.ofDays days with
      | .error defect => .error defect
      | .ok .never => .error (.noDate value)
      | .ok (.on date) => .ok date

end HostAccounts
