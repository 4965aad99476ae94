import HostAccounts.Text.Blank
import HostAccounts.Text.Numeral
import HostAccounts.Text.Pieces

/-!
# Database dumps

The databases of the host are read line by line. A blank line is skipped, and so is a line that is
no row, which leaves a fault with its line number; no line spoils another.
-/

set_option autoImplicit false

namespace HostAccounts

/-! ## Rows that cannot be read -/

/-- Why a line is no row. -/
inductive RowDefect where
  | fieldCount (expected found : Nat)
  | emptyUserName
  | emptyGroupName
  | notANumber (field value : String)
  | expiryOutOfRange (days : Int)
  | neitherDateNorCount (value : String)
  | noDate (value : String)
  deriving DecidableEq, Repr

/-- The defect in words. -/
def RowDefect.message : RowDefect → String
  | fieldCount expected found => s!"expected {expected} fields, found {found}"
  | emptyUserName => "empty username"
  | emptyGroupName => "empty group name"
  | notANumber field value => s!"{field} '{value}' is not a number"
  | expiryOutOfRange days => s!"expiry {days} is out of range"
  | neitherDateNorCount value => s!"'{value}' is neither YYYY-MM-DD nor a day count"
  | noDate value => s!"'{value}' does not denote a date"

/-- A defect and the line it was met on, counted from one; zero for a line on its own. -/
structure RowFault where
  line : Nat
  defect : RowDefect
  deriving DecidableEq, Repr

/-- The defect of a line on its own. -/
def RowFault.ofDefect (d : RowDefect) : RowFault := ⟨0, d⟩

/-- The fault in words. -/
def RowFault.message (f : RowFault) : String :=
  s!"line {f.line}: {f.defect.message}"

namespace Database

/-! ## Lines of a dump -/

/-- The fields of a line, which must be as many as asked for. -/
def fields (count : Nat) (line : String) : Except RowDefect (List String) :=
  let fs := Text.splitOn ':' line
  if fs.length = count then .ok fs else .error (.fieldCount count fs.length)

/-- A user or group number. -/
def readId (field value : String) : Except RowDefect UInt32 :=
  match Text.readNat? UInt32.size value with
  | some n => .ok (UInt32.ofNat n)
  | none => .error (.notANumber field value)

/-- The rows of a dump, and a fault for every line that is neither blank nor a row. -/
structure Dump (α : Type) where
  rows : List α
  faults : List RowFault

/-- Reads the numbered lines. -/
def readLines {α : Type} (read : String → Except RowDefect α) : Nat → List String → Dump α
  | _, [] => ⟨[], []⟩
  | n, line :: rest =>
    let dump := readLines read (n + 1) rest
    if Text.isBlankText line then dump
    else
      match read (Text.trimEndOf '\r' line) with
      | .ok row => ⟨row :: dump.rows, dump.faults⟩
      | .error defect => ⟨dump.rows, ⟨n, defect⟩ :: dump.faults⟩

/-- Reads what a host prints as a database. -/
def readDump {α : Type} (read : String → Except RowDefect α) (output : String) : Dump α :=
  readLines read 1 (Text.lines output)

end Database

end HostAccounts
