import HostAccounts.Shell.Quoting

/-!
# Elevation

How a command that needs root rights gets them. Without root rights of its own the session goes
through `sudo`: once per script the cached timestamp is dropped and a fresh one is earned by feeding
the password to a validation run (`priming`); after that the bare `sudo` is enough.
-/

set_option autoImplicit false

namespace HostAccounts

/-- How commands that need root rights get them. -/
inductive Elevation where
  /-- The session user is root. -/
  | alreadyRoot
  /-- Through `sudo`, with a password if one is known. -/
  | viaSudo (secret : Option String)
  deriving DecidableEq, Repr

namespace Elevation

/-- What can stand in front of a command. -/
inductive Lead where
  /-- The priming and then `sudo`. -/
  | full
  /-- Only `sudo`. -/
  | bare
  /-- Nothing. -/
  | none
  deriving DecidableEq, Repr

/-- The password to prime with; a missing one counts as empty. -/
def secret? : Elevation → Option String
  | alreadyRoot => Option.none
  | viaSudo secret => some (secret.getD "")

/-- Commands have to be elevated. -/
def isRequired (e : Elevation) : Bool :=
  e.secret?.isSome

/-- The password as it stands in the priming. -/
def quotedSecret? (e : Elevation) : Option String :=
  e.secret?.map Shell.singleQuote

/-- Drops the cached timestamp and validates the password through standard input. -/
def priming (e : Elevation) : String :=
  match e.quotedSecret? with
  | some secret => "sudo -k; echo " ++ secret ++ " | sudo -S -p '' -v; "
  | Option.none => ""

/-- The word in front of an elevated command. -/
def bare (e : Elevation) : String :=
  if e.isRequired then "sudo " else ""

/-- The text in front of a command. -/
def lead (e : Elevation) : Lead → String
  | .full => e.priming ++ e.bare
  | .bare => e.bare
  | .none => ""

@[simp] theorem priming_alreadyRoot : alreadyRoot.priming = "" := rfl

@[simp] theorem bare_alreadyRoot : alreadyRoot.bare = "" := rfl

@[simp] theorem lead_alreadyRoot (l : Lead) : alreadyRoot.lead l = "" := by
  cases l <;> rfl

@[simp] theorem bare_viaSudo (secret : Option String) : (viaSudo secret).bare = "sudo " := rfl

end Elevation

end HostAccounts
