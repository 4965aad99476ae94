import HostAccounts.Calendar.Expiry
import HostAccounts.Database.Dump

/-!
# What only root may read

One record of the shadow database: nine fields between colons, of which the second tells whether
the password is locked and the eighth when the account ends.

A rule file for commands with root rights: it names a principal, an account or a group behind a
percent sign, and then the rule.
-/

set_option autoImplicit false

namespace HostAccounts.Database

/-! ## Shadow rows -/

/-- A row of the shadow database; an aging field may be empty. -/
structure ShadowRow where
  username : String
  locked : Bool
  lastChange : Option Int
  minDays : Option Int
  maxDays : Option Int
  warnDays : Option Int
  inactiveDays : Option Int
  expiry : Expiry
  deriving DecidableEq

/-- What a shadow row says about its account on a day. -/
structure AccountStatus where
  locked : Bool
  enabled : Bool
  disableDate : Option Date
  deriving DecidableEq

namespace ShadowRow

/-- A number that may be left out. -/
def optionalNumber (field value : String) : Except RowDefect (Option Int) :=
  if value.isEmpty then .ok none
  else
    match Text.readInt64? value with
    | some n => .ok (some n)
    | none => .error (.notANumber field value)

/-- Reads a line, blanks at its ends aside. -/
def ofLine (line : String) : Except RowDefect ShadowRow :=
  match fields 9 (Text.trim line) with
  | .error defect => .error defect
  | .ok [username, password, lastChange, minDays, maxDays, warnDays, inactiveDays, expiry, _] => do
    let lastChange ← optionalNumber "last change" lastChange
    let minDays ← optionalNumber "minimum age" minDays
    let maxDays ← optionalNumber "maximum age" maxDays
    let warnDays ← optionalNumber "warning period" warnDays
    let inactiveDays ← optionalNumber "inactivity period" inactiveDays
    let expiry ← Expiry.ofField expiry
    return {
      username, locked := password.toList.head? = some '!', lastChange, minDays, maxDays, warnDays,
      inactiveDays, expiry }
  | .ok fs => .error (.fieldCount 9 fs.length)

/-- The status on a day: an account is enabled until its end has come. -/
def status (r : ShadowRow) (today : Date) : AccountStatus where
  locked := r.locked
  enabled := !r.expiry.hasPassed today
  disableDate := r.expiry.date?

end ShadowRow

/-! ## Rules for commands with root rights -/

/-- The first line that is neither blank nor a comment, trimmed. -/
def firstRuleLine? (output : String) : Option String :=
  ((Text.lines output).map Text.trim).find? fun l => !l.isEmpty && l.toList.head? != some '#'

/-- The rule that a file grants to the principal: the first rule line behind the principal's name,
or all of it if it begins otherwise. -/
def sudoersRule? (output principal : String) : Option String := do
  let line ← firstRuleLine? output
  let (head, rest) := (Text.cutAt? Text.isBlank line.toList).getD (line.toList, [])
  let rule :=
    if Text.trimStartOf '%' (String.ofList head) = principal then Text.trim (String.ofList rest)
    else line
  if rule.isEmpty then none else some rule

end HostAccounts.Database
