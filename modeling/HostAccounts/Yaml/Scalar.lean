import HostAccounts.Text.Shortest

/-!
# Plain scalars

A scalar without quotes may stand for nothing, a truth value or a number. These readings decide what
such a scalar means where a value of that kind is wanted, and which texts have to be quoted so that
they are not mistaken for one.
-/

set_option autoImplicit false

namespace HostAccounts.Yaml

/-! ## Nothing and truth values -/

/-- The spellings of nothing. -/
def isNull (s : String) : Bool :=
  ["null", "Null", "NULL", "~"].contains s

/-- The truth value that is spelt. -/
def flag? (s : String) : Option Bool :=
  if ["true", "True", "TRUE"].contains s then some true
  else if ["false", "False", "FALSE"].contains s then some false
  else none

/-! ## Whole numbers -/

/-- The text without a sign of the class in front. -/
def dropSign (signs : List Char) (cs : List Char) : List Char :=
  match cs with
  | c :: rest => if signs.contains c then rest else cs
  | [] => []

/-- Two or more decimal digits of which the first is zero; such a text is no number. -/
def isZeroLed (cs : List Char) : Bool :=
  match dropSign ['+', '-'] cs with
  | '0' :: rest => !rest.isEmpty && rest.all Char.isDigit
  | _ => false

/-- A number in base 16, 8 or 2 behind its mark. -/
def markedNat? : List Char → Option Nat
  | '0' :: 'x' :: digits => Text.digits? 16 digits
  | '0' :: 'o' :: digits => Text.digits? 8 digits
  | '0' :: 'b' :: digits => Text.digits? 2 digits
  | _ => none

/-- A whole number that is not negative. -/
def nat? (s : String) : Option Nat :=
  let cs := s.toList
  let body := dropSign ['+'] cs
  (markedNat? body).or (if isZeroLed cs then none else Text.digits? 10 body)

/-- A whole number behind a minus sign, without the sign. -/
def negated? (s : String) : Option Nat :=
  match s.toList with
  | '-' :: body => (markedNat? body).or (if isZeroLed body then none else Text.digits? 10 body)
  | _ => none

/-! ## Decimal fractions -/

/-- The text is a number that is no whole number: infinite, undefined, or a decimal fraction. -/
def isFraction (s : String) : Bool :=
  let cs := s.toList
  let unsigned := String.ofList (dropSign ['+'] cs)
  [".inf", ".Inf", ".INF"].contains unsigned ||
    ["-.inf", "-.Inf", "-.INF", ".nan", ".NaN", ".NAN"].contains s ||
    (match cs with
      | '+' :: '+' :: _ | '+' :: '-' :: _ => false
      | _ => (Text.decimal? (dropSign ['+', '-'] (dropSign ['+'] cs))).any (·.double?.isSome))

/-- A plain scalar with the text would not be taken for a text. -/
def isAmbiguous (s : String) : Bool :=
  s.isEmpty || isNull s || (flag? s).isSome || (nat? s).any (· < Nat.pow 2 128) ||
    (negated? s).any (· ≤ Nat.pow 2 127) || isZeroLed s.toList || isFraction s

end HostAccounts.Yaml
