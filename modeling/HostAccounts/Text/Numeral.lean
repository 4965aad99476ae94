/-!
# Numerals

Reading decimal numerals inside given bounds. A numeral is an optional sign and then ASCII digits
only; neither blanks nor separators are skipped, and a value outside the bounds is no numeral.
Characters can be written by their numbers, in hexadecimal.
-/

set_option autoImplicit false

namespace HostAccounts.Text

/-! ## Digits -/

/-- The value of a digit in a base of at most 36, with letters of either case above nine. -/
def digitValueIn? (base : Nat) (c : Char) : Option Nat :=
  let value? :=
    if c.isDigit then some (c.toNat - '0'.toNat)
    else if c.isLower then some (c.toNat - 'a'.toNat + 10)
    else if c.isUpper then some (c.toNat - 'A'.toNat + 10)
    else none
  value?.filter (· < base)

/-- Digits of a base, most significant first, behind a value already read. -/
def digitsFrom? (base : Nat) : Nat → List Char → Option Nat
  | n, [] => some n
  | n, c :: cs =>
    match digitValueIn? base c with
    | some d => digitsFrom? base (base * n + d) cs
    | none => none

/-- The value of a non-empty row of digits. -/
def digits? (base : Nat) (cs : List Char) : Option Nat :=
  if cs.isEmpty then none else digitsFrom? base 0 cs

/-! ## Numerals -/

/-- A numeral without a minus sign, below a bound. -/
def readNat? (bound : Nat) (s : String) : Option Nat :=
  let body := match s.toList with
    | '+' :: cs => cs
    | cs => cs
  (digits? 10 body).filter (· < bound)

/-- The signed 64-bit range. -/
def inInt64 (n : Int) : Bool :=
  -9223372036854775808 ≤ n && n < 9223372036854775808

/-- A numeral in the signed 64-bit range. -/
def readInt64? (s : String) : Option Int :=
  let value? : Option Int := match s.toList with
    | '+' :: cs => (digits? 10 cs).map Int.ofNat
    | '-' :: cs => (digits? 10 cs).map fun n => -Int.ofNat n
    | cs => (digits? 10 cs).map Int.ofNat
  value?.filter inInt64

/-- The decimal digits of a number, at least as many as asked for. -/
def padded (width n : Nat) : String :=
  let digits := toString n
  String.ofList (List.replicate (width - digits.length) '0') ++ digits

/-- The number in upper-case hexadecimal, at least as many digits as asked for. -/
def hexUpper (width n : Nat) : String :=
  let digits := (Nat.toDigits 16 n).map Char.toUpper
  String.ofList (List.replicate (width - digits.length) '0' ++ digits)

/-- The number in lower-case hexadecimal. -/
def hexLower (n : Nat) : String :=
  String.ofList (Nat.toDigits 16 n)

/-! ## Characters by number -/

/-- How many digits stand behind the letter of an escape with a number. -/
def escapeDigits? : Char → Option Nat
  | 'x' => some 2
  | 'u' => some 4
  | 'U' => some 8
  | _ => none

/-- The character with the number that so many hexadecimal digits make up. -/
def numberedChar? (count : Nat) (digits : List Char) : Option Char :=
  if digits.length = count then
    match digits? 16 digits with
    | some n => if n.isValidChar then some (Char.ofNat n) else none
    | none => none
  else none

end HostAccounts.Text
