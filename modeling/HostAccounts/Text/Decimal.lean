import HostAccounts.Text.Blank
import HostAccounts.Text.Numeral

/-!
# Decimal fractions

Numerals with a point or an exponent, and how digits are written around a point.
-/

set_option autoImplicit false

namespace HostAccounts.Text

/-! ## Reading -/

/-- The digits in front of and behind the point, and the exponent. -/
structure Decimal where
  whole : List Char
  fraction : List Char
  exponent : Int

/-- An exponent behind its letter; there may be none. -/
def exponent? : List Char → Option Int
  | [] => some 0
  | c :: rest =>
    if c = 'e' || c = 'E' then
      match rest with
      | '-' :: digits => (digits? 10 digits).map fun n => -Int.ofNat n
      | '+' :: digits => (digits? 10 digits).map Int.ofNat
      | digits => (digits? 10 digits).map Int.ofNat
    else none

/-- A decimal fraction: digits, a point and digits, of which some must be there, and an exponent. -/
def decimal? (cs : List Char) : Option Decimal :=
  let whole := cs.takeWhile Char.isDigit
  let rest := cs.dropWhile Char.isDigit
  let (fraction, rest) := match rest with
    | '.' :: more => (more.takeWhile Char.isDigit, more.dropWhile Char.isDigit)
    | _ => ([], rest)
  if whole.isEmpty && fraction.isEmpty then none
  else (exponent? rest).map fun e => ⟨whole, fraction, e⟩

/-- The digits from the first to the last that is not zero, and how many of them stand in front of
the point. -/
def Decimal.significant (d : Decimal) : List Char × Int :=
  let digits := d.whole ++ d.fraction
  let zeros := (digits.takeWhile (· == '0')).length
  (dropTrailing (· == '0') (digits.drop zeros), d.whole.length + d.exponent - zeros)

/-! ## Writing -/

/-- Digits, of which so many stand in front of the point, without an exponent, and without a point
where the number is whole. -/
def positional (digits : List Char) (before : Int) : String :=
  let zeros (n : Int) : List Char := List.replicate n.toNat '0'
  let whole := digits.take before.toNat ++ zeros (before - digits.length)
  let fraction := zeros (-before) ++ digits.drop before.toNat
  String.ofList <| (if whole.isEmpty then ['0'] else whole) ++
    if fraction.isEmpty then [] else '.' :: fraction

end HostAccounts.Text
