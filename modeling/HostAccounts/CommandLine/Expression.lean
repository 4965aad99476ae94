import HostAccounts.Filter
import HostAccounts.ObjectClass
import HostAccounts.Text.Blank

/-!
# Expressions

Classes, attributes and filters as they are written among the arguments of a command.
-/

set_option autoImplicit false

namespace HostAccounts.CommandLine

/-- What is wrong with an expression. -/
inductive ExpressionDefect where
  | unknownClass (name : String)
  | malformedPair (pair : String)
  | namelessPair (pair : String)
  | malformedFilter (text : String)
  | namelessFilter (text : String)
  deriving DecidableEq, Repr

/-- The defect in words. -/
def ExpressionDefect.message : ExpressionDefect → String
  | unknownClass name => s!"Unknown object class '{name}', expected account or group"
  | malformedPair pair => s!"Invalid attribute '{pair}', expected NAME=VALUE"
  | namelessPair pair => s!"Invalid attribute '{pair}', the name is empty"
  | malformedFilter text => s!"Invalid filter '{text}', expected ATTR=VALUE"
  | namelessFilter text => s!"Invalid filter '{text}', the attribute name is empty"

/-- A class that is managed. -/
def readClass (s : String) : Except ExpressionDefect ObjectClass :=
  match ObjectClass.ofText s with
  | .other name => .error (.unknownClass name)
  | c => .ok c

/-! ## Attributes -/

/-- A name and a value with an equals sign between them. -/
def readPair (pair : String) : Except ExpressionDefect (String × String) :=
  match Text.splitFirst? '=' pair with
  | none => .error (.malformedPair pair)
  | some (name, value) =>
    let name := Text.trim name
    if name.isEmpty then .error (.namelessPair pair) else .ok (name, value)

/-- Adds values to the first attribute of the name, or an attribute of that name. -/
def addValues (name : String) (values : List Value) : List Attribute → List Attribute
  | [] => [⟨name, values⟩]
  | a :: rest =>
    if a.isNamed name then { a with values := a.values ++ values } :: rest
    else a :: addValues name values rest

/-- The attributes that the pairs spell. A name may be repeated for several values; an empty value
only supplies the name. -/
def readAttributes (pairs : List String) : Except ExpressionDefect AttributeSet := do
  let pairs ← pairs.mapM readPair
  return .ofList <| pairs.foldl (fun as (name, value) =>
    addValues name (if value.isEmpty then [] else [.text value]) as) []

/-! ## Filters -/

/-- The comparison that stands at the end of a text in front of an equals sign, and the rest. -/
def comparisonMark (left : String) : String × Comparison :=
  if let some field := Text.dropLast? '^' left then (field, .startsWith)
  else if let some field := Text.dropLast? '$' left then (field, .endsWith)
  else if let some field := Text.dropLast? '*' left then (field, .contains)
  else (left, .equal)

/-- A comparison of a field with a text. -/
def readComparison (text : String) : Except ExpressionDefect Filter :=
  match Text.splitFirst? '=' text with
  | none => .error (.malformedFilter text)
  | some (left, value) =>
    let (field, kind) := comparisonMark left
    let field := Text.trim field
    if field.isEmpty then .error (.namelessFilter text) else .ok (.compare field kind value)

/-- A comparison, or its negation behind an exclamation mark. -/
def readFilter (text : String) : Except ExpressionDefect Filter :=
  let text := Text.trim text
  match Text.dropFirst? '!' text with
  | some rest => (readComparison (Text.trimStart rest)).map .not
  | none => readComparison text

end HostAccounts.CommandLine
