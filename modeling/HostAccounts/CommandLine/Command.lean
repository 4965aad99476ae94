import HostAccounts.CommandLine.Scan
import HostAccounts.Settings.Basic
import HostAccounts.Text.Numeral

/-!
# Commands

What the program can be told to do, and how that is written as arguments: options that hold for
every command, the name of a command, and what belongs to that.
-/

set_option autoImplicit false

namespace HostAccounts.CommandLine

/-! ## Commands -/

/-- A command. Classes, attributes and filters are still as they were written. -/
inductive Command where
  | test
  | create (className : String) (pairs : List String) (password : Bool)
  | update (className uid : String) (pairs : List String) (password : Bool)
  | removeValues (className uid : String) (pairs : List String)
  | delete (className uid : String)
  | search (className : String) (filter : Option String)
  | authenticate (username : String)
  deriving DecidableEq, Repr

/-- The options that belong to a command. -/
structure CommandOptions where
  pairs : List String := []
  password : Bool := false
  filter : Option String := none
  deriving DecidableEq, Repr

/-- What is written for a command, and the command that it stands for. -/
structure CommandForm where
  name : String
  usage : Usage CommandOptions
  build : CommandOptions → List String → Option Command

/-- The option that asks for help. -/
def helpOption {ω : Type} : OptionRule ω :=
  { long := "help", short := some 'h', effect := .stop .helpWanted }

/-- The option for the name and the value of an attribute. -/
def pairOption : OptionRule CommandOptions where
  long := "attribute"
  short := some 'a'
  effect := .values fun v o => { o with pairs := o.pairs ++ [v] }

/-- The option to have the password of an account typed. -/
def accountPasswordOption : OptionRule CommandOptions where
  long := "password"
  effect := .flag (·.password) fun o => { o with password := true }

/-- The option for a filter. -/
def filterOption : OptionRule CommandOptions where
  long := "filter"
  short := some 'f'
  effect := .value (·.filter.isSome) fun v o => .ok { o with filter := some v }

/-- The commands. -/
def commandForms : List CommandForm := [
  { name := "test"
    usage := { options := [helpOption] }
    build := fun _ operands =>
      match operands with
      | [] => some .test
      | _ => none },
  { name := "create"
    usage := { options := [pairOption, accountPasswordOption, helpOption], arity := 1 }
    build := fun o operands =>
      match operands with
      | [className] => some (.create className o.pairs o.password)
      | _ => none },
  { name := "update"
    usage := { options := [pairOption, accountPasswordOption, helpOption], arity := 2 }
    build := fun o operands =>
      match operands with
      | [className, uid] => some (.update className uid o.pairs o.password)
      | _ => none },
  { name := "remove-values"
    usage := { options := [pairOption, helpOption], arity := 2 }
    build := fun o operands =>
      match operands with
      | [className, uid] => some (.removeValues className uid o.pairs)
      | _ => none },
  { name := "delete"
    usage := { options := [helpOption], arity := 2 }
    build := fun _ operands =>
      match operands with
      | [className, uid] => some (.delete className uid)
      | _ => none },
  { name := "search"
    usage := { options := [filterOption, helpOption], arity := 1 }
    build := fun o operands =>
      match operands with
      | [className] => some (.search className o.filter)
      | _ => none },
  { name := "authenticate"
    usage := { options := [helpOption], arity := 1 }
    build := fun _ operands =>
      match operands with
      | [username] => some (.authenticate username)
      | _ => none }]

/-- The command that its arguments stand for. -/
def CommandForm.command (f : CommandForm) (args : List String) : Except UsageError Command := do
  let (s, _) ← Scan.arguments f.usage false args { options := {} }
  let s ← s.settle
  match f.build s.options s.operands with
  | some command => return command
  | none => throw .missingOperand

/-! ## Options for every command -/

/-- The options in front of a command. -/
structure GlobalOptions where
  config : Option String := none
  host : Option String := none
  port : Option UInt16 := none
  admin : Option String := none
  identity : Option String := none
  useAgent : Bool := false
  /-- Has the password of the administrator typed. -/
  password : Bool := false
  root : Bool := false
  verbosity : Nat := 0
  deriving DecidableEq, Repr

/-- A path may not be empty. -/
def pathValue (v : String) : Except UsageError String :=
  if v.isEmpty then .error .missingValue else .ok v

/-- The number of a port. -/
def portValue (v : String) : Except UsageError UInt16 :=
  match Text.readInt64? v with
  | some n => if 0 ≤ n && n < UInt16.size then .ok (.ofNat n.toNat) else .error .malformedValue
  | none => .error .malformedValue

/-- How often a counted option counts. -/
def maxCount : Nat := 255

/-- The options in front of a command. -/
def globalOptions : List (OptionRule GlobalOptions) := [
  { long := "config"
    effect := .value (·.config.isSome) fun v o =>
      return { o with config := some (← pathValue v) } },
  { long := "host", short := some 'H'
    effect := .value (·.host.isSome) fun v o => return { o with host := some v } },
  { long := "port", short := some 'p'
    effect := .value (·.port.isSome) fun v o => return { o with port := some (← portValue v) } },
  { long := "admin", short := some 'l'
    effect := .value (·.admin.isSome) fun v o => return { o with admin := some v } },
  { long := "identity", short := some 'i'
    effect :=
      .value (·.identity.isSome) fun v o => return { o with identity := some (← pathValue v) } },
  { long := "use-agent", short := some 'A'
    effect := .flag (·.useAgent) fun o => { o with useAgent := true } },
  { long := "password", short := some 'P'
    effect := .flag (·.password) fun o => { o with password := true } },
  { long := "root", effect := .flag (·.root) fun o => { o with root := true } },
  { long := "verbose", short := some 'v'
    effect := .count fun o => { o with verbosity := min maxCount (o.verbosity + 1) } },
  helpOption,
  { long := "version", short := some 'V', effect := .stop .versionWanted }]

/-- The subcommand that explains others. -/
def helpName : String := "help"

/-- The names that may stand where a command is expected. -/
def subcommandNames : List String :=
  commandForms.map (·.name) ++ [helpName]

/-- The arguments of the program. -/
def programUsage : Usage GlobalOptions :=
  { options := globalOptions, subcommands := subcommandNames }

/-- What is wanted of the subcommand for help: help, if the names exist. -/
def helpFor : List String → UsageError
  | [] => .helpWanted
  | [name] => if subcommandNames.contains name then .helpWanted else .unknownSubcommand
  | _ => .unknownSubcommand

/-- What the program was told. -/
structure Invocation where
  options : GlobalOptions
  command : Command
  deriving DecidableEq, Repr

/-- Reads the arguments of the program. The arguments of the command come before what is pending in
front of it. -/
def Invocation.ofArguments (args : List String) : Except UsageError Invocation := do
  match ← Scan.arguments programUsage false args { options := {} } with
  | (s, some (name, rest)) =>
    match commandForms.find? (·.name == name) with
    | none => throw (helpFor rest)
    | some form =>
      let command ← form.command rest
      return ⟨(← s.settle).options, command⟩
  | (s, none) =>
    let s ← s.settle
    throw (if s.options = {} then .nothingGiven else .missingSubcommand)

/-! ## Settings from options -/

/-- The settings with what the options say in place of them. -/
def GlobalOptions.override (o : GlobalOptions) (s : Settings) : Settings :=
  { s with
    connection := { s.connection with
      host := o.host.getD s.connection.host
      port := o.port.getD s.connection.port
      admin := o.admin.getD s.connection.admin
      keyPath := o.identity.or s.connection.keyPath
      useAgent := o.useAgent || s.connection.useAgent }
    elevation := { s.elevation with root := o.root || s.elevation.root } }

end HostAccounts.CommandLine
