import HostAccounts.Calendar.Expiry
import HostAccounts.Recipe.Basic

/-!
# Activation

Whether and until when an account may be used. An account is disabled by giving it an end, the one
supplied or else the one in the settings, and enabled by taking its end away. Locking is
independent of that.
-/

set_option autoImplicit false

namespace HostAccounts.Recipe

/-- The end of an account that is to be disabled, as the host takes it. -/
def disableDate (s : Settings) (attributes : AttributeSet) : Except ArgumentDefect String :=
  match attributes.text? AttributeName.disableDate with
  | some value =>
    match Date.ofRequest value with
    | .ok date => .ok date.written
    | .error defect => .error (.badDate AttributeName.disableDate defect)
  | none => .ok s.accounts.disableDate

/-- Sets or clears the end of an account. -/
def expirySteps (s : Settings) (user : String) (attributes : AttributeSet) :
    Except ArgumentDefect Plan :=
  let expire := (disableDate s attributes).map fun date => [Intent.run (Primitive.expire user date)]
  match attributes.flag? AttributeName.enable with
  | some true => .ok [.run (Primitive.clearExpiry user)]
  | some false => expire
  | none => if attributes.isPresent AttributeName.disableDate then expire else .ok []

/-- Locks or unlocks an account. -/
def lockSteps (user : String) (attributes : AttributeSet) : Plan :=
  match attributes.flag? AttributeName.lockOut with
  | some true => [.run (Primitive.lock user)]
  | some false => [.run (Primitive.unlock user)]
  | none => []

/-- Everything that the attributes say on the use of an account. -/
def activationSteps (s : Settings) (user : String) (attributes : AttributeSet) :
    Except Fault Plan :=
  match expirySteps s user attributes with
  | .ok steps => .ok (steps ++ lockSteps user attributes)
  | .error defect => .error (.invalidArgument defect)

/-- The command for what the attributes say on the use of an account, if they say anything. -/
def activation? (s : Settings) (user : String) (attributes : AttributeSet) :
    Except Fault (Option RemoteCommand) :=
  (activationSteps s user attributes).map (Plan.command? s.elevationPolicy)

/-- The command that locks an account. -/
def lock (s : Settings) (user : String) : RemoteCommand :=
  elevated s (Primitive.lock user)

/-- The command that unlocks an account. -/
def unlock (s : Settings) (user : String) : RemoteCommand :=
  elevated s (Primitive.unlock user)

/-- The command that takes the end of an account away. -/
def enable (s : Settings) (user : String) : RemoteCommand :=
  elevated s (Primitive.clearExpiry user)

/-- The command that gives an account an end. -/
def disable (s : Settings) (user : String) (date : Date) : RemoteCommand :=
  elevated s (Primitive.expire user date.written)

end HostAccounts.Recipe
