import HostAccounts.Pattern.Basic
import HostAccounts.Text.Blank
import HostAccounts.Text.Numeral

/-!
# Escapes

Blanks and comments inside patterns, and what a backslash makes of the characters behind it. The
properties of characters are not at hand, and no group can be named again.
-/

set_option autoImplicit false

namespace HostAccounts.Pattern

/-! ## Blanks -/

/-- What follows blanks and comments. A comment ends with its line. -/
def dropComments (inComment : Bool) : List Char → List Char
  | [] => []
  | c :: cs =>
    if inComment then dropComments (c != '\n') cs
    else if Text.isBlank c then dropComments false cs
    else if c = '#' then dropComments true cs
    else c :: cs

/-- What follows, behind blanks and comments where these do not count. -/
def skip (spaced : Bool) (cs : List Char) : List Char :=
  if spaced then dropComments false cs else cs

/-! ## Escapes -/

/-- So many characters, or fewer at the end, and what follows them. -/
def takeChars (spaced : Bool) : Nat → List Char → List Char × List Char
  | 0, cs => ([], cs)
  | n + 1, cs =>
    match skip spaced cs with
    | [] => ([], [])
    | c :: rest =>
      let (taken, rest) := takeChars spaced n rest
      (c :: taken, rest)

/-- The character that a letter behind a backslash stands for. -/
def control? : Char → Option Char
  | 'a' => some (Char.ofNat 7)
  | 't' => some '\t'
  | 'n' => some '\n'
  | 'v' => some (Char.ofNat 11)
  | 'f' => some (Char.ofNat 12)
  | 'r' => some '\r'
  | _ => none

/-- What stands behind a backslash. -/
def escape? (spaced : Bool) : List Char → Option (Pattern × List Char)
  | [] => none
  | c :: cs =>
    match Text.escapeDigits? c with
    | some count => do
      let (digits, rest) := takeChars spaced count cs
      return (.literal ⟨← Text.numberedChar? count digits, c = 'x'⟩, rest)
    | none =>
      match c with
      | 'd' | 's' | 'w' => some (.short false, cs)
      | 'D' | 'S' | 'W' => some (.short true, cs)
      | 'A' | 'z' => some (.edge, cs)
      | 'b' | 'B' | '<' | '>' => some (.wordEdge, cs)
      | _ =>
        if c.toNat < 0x80 && !c.isAlphanum then some (.literal ⟨c, false⟩, cs)
        else (control? c).map fun x => (.literal ⟨x, false⟩, cs)

end HostAccounts.Pattern
