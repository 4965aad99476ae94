import HostAccounts.Dialogue
import HostAccounts.Settings.Basic

/-!
# Checks on requests

What a request has to carry. All of it is checked before anything is sent to the host.
-/

set_option autoImplicit false

namespace HostAccounts.Provision

/-- A class that is managed. -/
def requireSupported (c : ObjectClass) : Except Fault Unit :=
  match c with
  | .other what => .error (.unsupportedClass what)
  | _ => .ok ()

/-- A check on a name or path as a check on a request. -/
def asFault (check : Except ArgumentDefect Unit) : Except Fault Unit :=
  check.mapError .invalidArgument

/-- The name that a creation must carry. -/
def requireName (attributes : AttributeSet) : Except Fault String := do
  match attributes.name? with
  | none => throw (.invalidArgument (.missingAttribute AttributeName.name))
  | some name =>
    asFault (checkName AttributeName.name name)
    return name

/-- The identifier that a change or removal must carry. -/
def requireUid (uid : String) : Except Fault String := do
  asFault (checkName AttributeName.uid uid)
  return uid

/-- Checks the names and paths among the attributes. -/
def checkAttributes (c : ObjectClass) (names : FieldNames) (attributes : AttributeSet) :
    Except Fault Unit := do
  if let some name := attributes.name? then
    asFault (checkName AttributeName.name name)
  if c = .account then
    if let some home := attributes.text? names.homeDirectory then
      asFault (checkPath names.homeDirectory home)
    if let some shell := attributes.text? names.shell then
      asFault (checkPath names.shell shell)
    (attributes.texts AttributeName.groups).forM fun group =>
      asFault (checkName AttributeName.groups group)

end HostAccounts.Provision
