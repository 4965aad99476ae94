import HostAccounts.Database.Dump
import HostAccounts.Transport.Fault

/-!
# Faults

Why an operation did not do what it was asked for, by cause. The first three kinds are the caller's
doing and arise before anything is sent to the host.
-/

set_option autoImplicit false

namespace HostAccounts

/-! ## Arguments -/

/-- What is wrong with an argument. -/
inductive ArgumentDefect where
  | blank (field : String)
  | tooLong (field : String) (limit : Nat)
  | notAName (field name : String)
  | leadingHyphen (field : String)
  | relativePath (field : String)
  | climbingPath (field : String)
  | notAPath (field : String)
  | missingAttribute (name : String)
  | badDate (field : String) (defect : RowDefect)
  | groupPassword
  | unsearchable (what field : String)
  deriving DecidableEq, Repr

/-- The defect in words. -/
def ArgumentDefect.message : ArgumentDefect → String
  | blank field => s!"{field} cannot be empty"
  | tooLong field limit => s!"{field} too long (max {limit} characters)"
  | notAName field name => s!"{field} '{name}' contains invalid characters"
  | leadingHyphen field => s!"{field} cannot start with a hyphen"
  | relativePath field => s!"{field} must be an absolute path"
  | climbingPath field => s!"{field} contains path traversal sequence"
  | notAPath field => s!"{field} contains invalid characters"
  | missingAttribute name => s!"{name} attribute is required"
  | badDate field defect => s!"{field}: {defect.message}"
  | groupPassword => "groups do not carry a password"
  | unsearchable what field => s!"cannot search {what} by '{field}'"

/-! ## Settings -/

/-- What is wrong with the settings. -/
inductive SettingsDefect where
  | noSudoPassword
  | badPath (defect : ArgumentDefect)
  | badMode (field mode : String)
  | noHost
  | noAdmin
  | noCredential
  deriving DecidableEq, Repr

/-- What stands in front of the words for a bad argument. -/
def argumentLead : String := "invalid argument: "

/-- The defect in words. -/
def SettingsDefect.message : SettingsDefect → String
  | noSudoPassword => "a sudo password is required unless the admin login is root"
  | badPath defect => argumentLead ++ defect.message
  | badMode field mode => s!"{field} must be an octal mode, got '{mode}'"
  | noHost => "connection.host is required"
  | noAdmin => "connection.admin is required"
  | noCredential => "no key file, agent or password configured for the admin login"

/-! ## Filters -/

/-- A filter that cannot be answered by one look at each row. -/
inductive FilterDefect where
  | conjunction
  | disjunction
  deriving DecidableEq, Repr

/-- The defect in words. -/
def FilterDefect.message : FilterDefect → String
  | conjunction => "AND filters are not supported"
  | disjunction => "OR filters are not supported"

/-! ## Operations -/

/-- Why an operation failed. -/
inductive Fault where
  | invalidArgument (defect : ArgumentDefect)
  | unsupportedClass (name : String)
  | unsupportedFilter (defect : FilterDefect)
  | badSettings (defect : SettingsDefect)
  /-- The target does not exist on the host. -/
  | unknownTarget (name : String)
  /-- A search for one object found none. -/
  | noResults (name : String)
  /-- The session is of no more use. -/
  | brokenConnection (fault : TransportFault)
  /-- The command printed a sign of failure. -/
  | commandFailed (failure output : String)
  /-- The host turned the password of an account down. -/
  | invalidCredential (username : String)
  /-- A row that had to be read cannot be. -/
  | badRow (fault : RowFault)
  deriving DecidableEq, Repr

namespace Fault

/-- The fault in words. -/
def message : Fault → String
  | invalidArgument defect => argumentLead ++ defect.message
  | unsupportedClass name => s!"unsupported object class '{name}'"
  | unsupportedFilter defect => "operation not supported: " ++ defect.message
  | badSettings defect => "invalid configuration: " ++ defect.message
  | unknownTarget name => s!"unknown identifier '{name}'"
  | noResults name => s!"No results found for '{name}'"
  | brokenConnection fault => "connection broken: " ++ fault.message
  | commandFailed failure output => s!"{failure}: {output}"
  | invalidCredential username => s!"invalid credentials for '{username}'"
  | badRow fault => fault.message

/-- What lies behind the fault, each in words of its own. -/
def causes : Fault → List String
  | brokenConnection fault => [fault.message]
  | _ => []

/-- The session has to be opened anew. -/
def isBrokenConnection : Fault → Bool
  | brokenConnection _ => true
  | _ => false

/-- The caller asked for what cannot be done. -/
def isCallersDoing : Fault → Bool
  | invalidArgument _ | unsupportedClass _ | unsupportedFilter _ => true
  | _ => false

end Fault

end HostAccounts
