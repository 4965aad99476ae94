import HostAccounts.Text.Decimal

/-!
# Shortest decimal fractions

Numbers in double precision. A decimal fraction stands for the nearest such number, and a number is
written with the fewest digits that stand for it.
-/

set_option autoImplicit false

namespace HostAccounts.Text

/-! ## Double precision -/

/-- A number that is not negative: the mantissa times two to the exponent. -/
structure Double where
  mantissa : Nat
  exponent : Int
  deriving DecidableEq, Repr

/-- The number of different mantissas. -/
def mantissas : Nat := 9007199254740992

/-- The least exponent. -/
def leastExponent : Int := -1074

/-- The greatest exponent. -/
def greatestExponent : Int := 971

/-- A quotient times a power of a base, as a quotient. -/
def scaled (n d base : Nat) (power : Int) : Nat × Nat :=
  (n * Nat.pow base power.toNat, d * Nat.pow base (-power).toNat)

/-- The whole number next to a quotient; of two equally near ones the even one. -/
def nearestNat (n d : Nat) : Nat :=
  let below := n / d
  let rest := 2 * (n % d)
  if rest < d || (rest = d && below % 2 = 0) then below else below + 1

/-- The number next to a quotient, whatever its exponent. -/
def Double.nearest (n d : Nat) : Double :=
  let least := max leastExponent ((n.log2 : Int) - d.log2 - 53)
  let (a, b) := scaled n d 2 (-least)
  let exponent := if a / b < mantissas then least else least + 1
  let (a, b) := scaled n d 2 (-exponent)
  let mantissa := nearestNat a b
  if mantissa < mantissas then ⟨mantissa, exponent⟩ else ⟨mantissas / 2, exponent + 1⟩

/-- The number that digits stand for, so many of them in front of the point; there is none for one
that is too large. -/
def double? (digits : List Char) (before : Int) : Option Double :=
  if before > 400 then none
  else if before < -400 then some ⟨0, leastExponent⟩
  else
    let (n, d) := scaled ((digitsFrom? 10 0 digits).getD 0) 1 10 (before - digits.length)
    let x := Double.nearest n d
    if x.exponent ≤ greatestExponent then some x else none

/-- The number that a decimal fraction stands for. -/
def Decimal.double? (d : Decimal) : Option Double :=
  let (digits, before) := d.significant
  if digits.isEmpty then some ⟨0, leastExponent⟩ else Text.double? digits before

/-! ## Writing -/

/-- How many digits of the number stand in front of the point; the zeros behind the point in front
of the first digit count below zero. -/
def Double.magnitude (x : Double) : Int :=
  let places := 340
  let (a, b) := scaled x.mantissa 1 2 x.exponent
  (Nat.toDigits 10 (a * Nat.pow 10 places / b)).length - (places : Int)

/-- The fraction with so many digits that stands for the number; of two the nearer one, or else the
greater one. -/
def Double.withDigits? (x : Double) (count : Nat) : Option (List Char × Int) :=
  let power := (count : Int) - x.magnitude
  let (a, b) := scaled x.mantissa 1 2 x.exponent
  let (a, b) := scaled a b 10 power
  let below := a / b
  let written (n : Nat) : List Char × Int :=
    let digits := Nat.toDigits 10 n
    (dropTrailing (· == '0') digits, digits.length - power)
  let candidates := if 2 * a < (2 * below + 1) * b then [below, below + 1] else [below + 1, below]
  (candidates.map written).find? fun (digits, before) => Text.double? digits before = some x

/-- The number with the fewest digits that stand for it. Seventeen are always enough. -/
def Double.written (x : Double) : String :=
  if x.mantissa = 0 then "0"
  else
    match (List.range 17).findSome? fun n => x.withDigits? (n + 1) with
    | some (digits, before) => positional digits before
    | none => "0"

/-- The number that a decimal fraction stands for, without an exponent. One that is too large is
infinite. -/
def Decimal.written (d : Decimal) : String :=
  match d.double? with
  | some x => x.written
  | none => "inf"

end HostAccounts.Text
