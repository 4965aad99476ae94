import HostAccounts.Recipe.Basic

/-!
# Rules for commands with root rights

A rule is kept in a file of its own for each account and each group. The name of the file tells an
account from a group of the same name.
-/

set_option autoImplicit false

namespace HostAccounts.Recipe

/-- What ends the name of the rule file of a class. -/
def ruleFileEnding : ObjectClass → Except Fault String
  | .account => .ok "_user"
  | .group => .ok "_group"
  | .other what => .error (.unsupportedClass what)

/-- The path of the rule file. -/
def ruleFile (s : Settings) (c : ObjectClass) (name : String) : Except Fault String :=
  (ruleFileEnding c).map fun ending => pathIn s.accounts.sudoersDirectory (name ++ ending)

/-- The name under which the rule file knows an account or a group. -/
def principal (c : ObjectClass) (name : String) : String :=
  if c = .group then "%" ++ name else name

/-- Writes the rule file. -/
def grantSteps (s : Settings) (c : ObjectClass) (name rule : String) : Except Fault Plan :=
  (ruleFile s c name).map fun path =>
    [.feed (principal c name ++ " " ++ rule) (Primitive.tee path),
      .run (Primitive.chmod "0440" path)]

/-- Writes the rule file, if a rule is supplied. -/
def grantSupplied (s : Settings) (c : ObjectClass) (name : String) (attributes : AttributeSet) :
    Except Fault Plan :=
  match attributes.text? AttributeName.permissions with
  | some rule => grantSteps s c name rule
  | none => .ok []

/-- Removes the rule file. -/
def revokeSteps (s : Settings) (c : ObjectClass) (name : String) : Except Fault Plan :=
  (ruleFile s c name).map fun path => [.run (Primitive.removeFile path)]

/-- Removes the rule file, if a rule is named, whatever it says. -/
def revokeSupplied (s : Settings) (c : ObjectClass) (name : String) (attributes : AttributeSet) :
    Except Fault Plan :=
  if attributes.contains AttributeName.permissions then revokeSteps s c name else .ok []

/-- The command that grants a rule. -/
def grant (s : Settings) (c : ObjectClass) (name rule : String) : Except Fault RemoteCommand :=
  (grantSteps s c name rule).map (Plan.command s.elevationPolicy)

/-- The command that takes the rule back. -/
def revoke (s : Settings) (c : ObjectClass) (name : String) : Except Fault RemoteCommand :=
  (revokeSteps s c name).map (Plan.command s.elevationPolicy)

/-- The command that reads the rule file. -/
def readRule (s : Settings) (c : ObjectClass) (name : String) : Except Fault RemoteCommand :=
  (ruleFile s c name).map fun path => elevated s (Primitive.cat path)

end HostAccounts.Recipe
