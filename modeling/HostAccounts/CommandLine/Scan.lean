import HostAccounts.Text.Pieces

/-!
# Scanning arguments

Options and operands among the arguments of a command. The value of an option may stand in the
argument behind it; such an option is pending, and is settled when the next option or operand turns
up or the arguments end. Only then does it show whether its value is missing or malformed.
-/

set_option autoImplicit false

namespace HostAccounts.CommandLine

/-- Why arguments are not accepted, or ask for a notice only. -/
inductive UsageError where
  | unknownSubcommand
  | missingSubcommand
  | unknownArgument
  | missingOperand
  /-- An option without its value. -/
  | missingValue
  | malformedValue
  /-- A value for an option that takes none. -/
  | needlessValue
  | repeatedOption
  | helpWanted
  | versionWanted
  /-- Nothing was given at all. -/
  | nothingGiven
  deriving DecidableEq, Repr

/-! ## Options -/

/-- What an option does to a record of options. -/
inductive Effect (ω : Type) where
  /-- Is given at most once. -/
  | flag (isGiven : ω → Bool) (give : ω → ω)
  /-- May be given again. -/
  | count (give : ω → ω)
  /-- Takes a value, and is given at most once. -/
  | value (isGiven : ω → Bool) (give : String → ω → Except UsageError ω)
  /-- Takes a value, and may be given again. -/
  | values (give : String → ω → ω)
  /-- Ends the scan. -/
  | stop (e : UsageError)

/-- The option takes a value. -/
def Effect.takesValue {ω : Type} : Effect ω → Bool
  | value .. | values _ => true
  | _ => false

/-- An option with its long and its short name. -/
structure OptionRule (ω : Type) where
  long : String
  short : Option Char := none
  effect : Effect ω

/-- The arguments that a command takes. -/
structure Usage (ω : Type) where
  options : List (OptionRule ω)
  /-- How many operands there are. -/
  arity : Nat := 0
  /-- The names of the commands below it. -/
  subcommands : List String := []

/-! ## The scan -/

/-- How far a scan has come. -/
structure Scan (ω : Type) where
  options : ω
  operands : List String := []
  /-- The option that is not settled, with its value if that was given. -/
  pending : Option (Effect ω × Option String) := none

namespace Scan

variable {ω : Type}

/-- The next argument is the value of an option. -/
def awaitsValue (s : Scan ω) : Bool :=
  s.pending.any fun (_, v) => v.isNone

/-- Gives an option its value, or none if it takes none. -/
def give (s : Scan ω) (e : Effect ω) (v : String) : Except UsageError (Scan ω) := do
  match e with
  | .flag isGiven give =>
    if isGiven s.options then throw .repeatedOption
    return { s with options := give s.options }
  | .count give => return { s with options := give s.options }
  | .value isGiven give =>
    if isGiven s.options then throw .repeatedOption
    return { s with options := ← give v s.options }
  | .values give => return { s with options := give v s.options }
  | .stop e => throw e

/-- Settles the pending option. -/
def settle (s : Scan ω) : Except UsageError (Scan ω) :=
  match s.pending with
  | none => .ok s
  | some (_, none) => .error .missingValue
  | some (e, some v) => { s with pending := none }.give e v

/-- Takes an option, with the value that stands in the same argument. -/
def take (s : Scan ω) (e : Effect ω) (attached : Option String) : Except UsageError (Scan ω) := do
  let s ← s.settle
  if e.takesValue && attached.isNone then return { s with pending := some (e, none) }
  else s.give e (attached.getD "")

/-- Takes an option by its long name. -/
def long (u : Usage ω) (s : Scan ω) (name : String) (attached : Option String) :
    Except UsageError (Scan ω) :=
  match u.options.find? (·.long == name) with
  | none => .error .unknownArgument
  | some o =>
    if attached.isSome && !o.effect.takesValue then .error .needlessValue
    else s.take o.effect attached

/-- Takes options by their short names; the first that takes a value takes the rest as such, without
an equals sign in front of it. -/
def short (u : Usage ω) (s : Scan ω) : List Char → Except UsageError (Scan ω)
  | [] => .ok s
  | c :: rest =>
    match u.options.find? (·.short == some c) with
    | none => .error .unknownArgument
    | some o =>
      if o.effect.takesValue then
        s.take o.effect <|
          match rest with
          | [] => none
          | '=' :: value => some (String.ofList value)
          | value => some (String.ofList value)
      else do (← s.take o.effect none).short u rest

/-- Takes an operand. Behind two hyphens a subcommand is none. -/
def operand (u : Usage ω) (s : Scan ω) (trailing : Bool) (arg : String) :
    Except UsageError (Scan ω) := do
  if s.operands.length < u.arity then
    let s ← s.settle
    return { s with operands := s.operands ++ [arg] }
  else if u.subcommands.isEmpty || (trailing && u.subcommands.contains arg) then
    throw .unknownArgument
  else throw .unknownSubcommand

/-- Takes one argument that is neither a subcommand nor two hyphens. -/
def argument (u : Usage ω) (s : Scan ω) (arg : String) : Except UsageError (Scan ω) :=
  match arg.toList with
  | '-' :: '-' :: body =>
    match Text.cutAt? (· == '=') body with
    | some (name, value) => s.long u (String.ofList name) (some (String.ofList value))
    | none => s.long u (String.ofList body) none
  | '-' :: c :: body => s.short u (c :: body)
  | _ =>
    match s.pending with
    | some (e, none) => .ok { s with pending := some (e, some arg) }
    | _ => s.operand u false arg

/-- Takes arguments up to a subcommand. Behind two hyphens there are operands only. The result may
leave an option pending. -/
def arguments (u : Usage ω) : Bool → List String → Scan ω →
    Except UsageError (Scan ω × Option (String × List String))
  | _, [], s => .ok (s, none)
  | true, arg :: rest, s => do arguments u true rest (← s.operand u true arg)
  | false, arg :: rest, s => do
    if !s.awaitsValue && u.subcommands.contains arg then return (s, some (arg, rest))
    else if arg = "--" then arguments u true rest s
    else arguments u false rest (← s.argument u arg)

end Scan

end HostAccounts.CommandLine
