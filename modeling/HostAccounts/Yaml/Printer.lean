import HostAccounts.Yaml.Scalar
import HostAccounts.Yaml.Token

/-!
# Printing YAML

Texts, lists and records in block style. A text is written plainly if it then reads as the same
text, as a block of lines if it holds a line feed, and between quotes otherwise; double quotes are
left to what single quotes cannot hold.
-/

set_option autoImplicit false

namespace HostAccounts.Yaml

/-! ## Which styles a text allows -/

/-- Characters that begin something other than a plain text. -/
def beginsOtherwise (c : Char) : Bool :=
  "#,[]{}&*!|>'\"%@\x60".toList.contains c

/-- The first character would be read as a sign, with `next` behind it. -/
def isFirstIndicator (c : Char) (next : Option Char) : Bool :=
  beginsOtherwise c || ((c == '?' || c == ':' || c == '-') && next.all isGap)

/-- A character further on would be read as a sign, between its neighbours. -/
def isInnerIndicator (previous c : Char) (next : Option Char) : Bool :=
  (c == ':' && next.all isGap) || (c == '#' && isGap previous)

/-- Some character behind the first would be read as a sign. -/
def hasInnerIndicator : List Char → Bool
  | p :: c :: rest => isInnerIndicator p c rest.head? || hasInnerIndicator (c :: rest)
  | _ => false

/-- The text has signs in it that plain style would not keep. -/
def hasIndicators (cs : List Char) : Bool :=
  (match cs with
    | c :: rest => isFirstIndicator c rest.head?
    | [] => false) ||
  hasInnerIndicator cs || "---".toList.isPrefixOf cs || "...".toList.isPrefixOf cs

/-- Two neighbours with the given properties stand in the list. -/
def hasPair (p q : Char → Bool) : List Char → Bool
  | c :: d :: rest => (p c && q d) || hasPair p q (d :: rest)
  | _ => false

/-- A space in front of the end of a line stands in the text. -/
def hasSpaceBreak (cs : List Char) : Bool := hasPair (· == ' ') isBreak cs

/-- A space at the beginning of a line stands in the text. -/
def hasBreakSpace (cs : List Char) : Bool := hasPair isBreak (· == ' ') cs

/-- An end of the text that plain style would lose. -/
def isLooseEnd (c : Option Char) : Bool :=
  c.any fun c => c == ' ' || isBreak c

/-- Plain style keeps the text. -/
def allowsPlain (cs : List Char) : Bool :=
  cs.all (fun c => isPrintable c && !isBreak c) &&
    !isLooseEnd cs.head? && !isLooseEnd cs.getLast? &&
    !hasIndicators cs

/-- Single quotes keep the text. -/
def allowsSingleQuotes (cs : List Char) : Bool :=
  cs.all isPrintable && !hasSpaceBreak cs && !hasBreakSpace cs

/-- A block of lines keeps the text. -/
def allowsBlock (cs : List Char) : Bool :=
  cs.all isPrintable && cs.getLast? != some ' ' && !hasSpaceBreak cs

/-! ## Styles -/

/-- The characters between single quotes; behind the end of a line the text is indented. -/
def singleQuoted (indent : Nat) : Bool → List Char → List Char
  | true, [] => List.replicate indent ' '
  | false, [] => []
  | behind, c :: cs =>
    if isBreak c then c :: singleQuoted indent true cs
    else
      (if behind then List.replicate indent ' ' else []) ++
        (if c = '\'' then ['\'', '\''] else [c]) ++ singleQuoted indent false cs

/-- An escape inside double quotes. -/
def escape (c : Char) : String :=
  let n := c.toNat
  match n with
  | 0x00 => "\\0"
  | 0x07 => "\\a"
  | 0x08 => "\\b"
  | 0x09 => "\\t"
  | 0x0A => "\\n"
  | 0x0B => "\\v"
  | 0x0C => "\\f"
  | 0x0D => "\\r"
  | 0x1B => "\\e"
  | 0x22 => "\\\""
  | 0x5C => "\\\\"
  | 0x85 => "\\N"
  | 0x2028 => "\\L"
  | 0x2029 => "\\P"
  | _ =>
    if n ≤ 0xFF then "\\x" ++ Text.hexUpper 2 n
    else if n ≤ 0xFFFF then "\\u" ++ Text.hexUpper 4 n
    else "\\U" ++ Text.hexUpper 8 n

/-- A character inside double quotes. -/
def doubleQuotedChar (c : Char) : String :=
  if !isPrintable c || isBreak c || c = '"' || c = '\\' then escape c else c.toString

/-- The lines of a block, each indented unless it is empty. -/
def blockLines (indent : Nat) : Bool → List Char → List Char
  | _, [] => []
  | behind, c :: cs =>
    if isBreak c then c :: blockLines indent true cs
    else (if behind then List.replicate indent ' ' else []) ++ c :: blockLines indent false cs

/-- The mark of a block: its indentation if the text begins with a gap, and what becomes of the ends
of lines at its end. -/
def blockMark (cs : List Char) : String :=
  let indentation := if isLooseEnd cs.head? then "2" else ""
  let ending := match cs.reverse with
    | [] => "-"
    | [c] => if isBreak c then "+" else "-"
    | c :: d :: _ => if !isBreak c then "-" else if isBreak d then "+" else ""
  "|" ++ indentation ++ ending

/-- The text as a scalar whose further lines are indented. -/
def scalar (indent : Nat) (s : String) : String :=
  let cs := s.toList
  let doubleQuoted := "\"" ++ String.join (cs.map doubleQuotedChar) ++ "\""
  let quoted :=
    if allowsSingleQuotes cs then
      "'" ++ String.ofList (singleQuoted indent false cs) ++ "'"
    else doubleQuoted
  if cs.contains '\n' then
    if allowsBlock cs then
      blockMark cs ++ "\n" ++ String.ofList (blockLines indent true cs)
    else doubleQuoted
  else if isAmbiguous s || !allowsPlain cs then quoted
  else s

/-! ## Trees -/

/-- What is printed. -/
inductive Tree where
  | text (s : String)
  | tagged (tag s : String)
  | flag (b : Bool)
  | list (items : List Tree)
  | record (fields : List (String × Tree))

/-- The text with the end of a line, unless it ends a line already. -/
def endLine (s : String) : String :=
  if s.toList.getLast?.any isBreak then s else s.push '\n'

/-- Blanks. -/
def spaces (n : Nat) : String :=
  String.ofList (List.replicate n ' ')

mutual

/-- A tree behind the key of a record that is indented by `n`. -/
def Tree.afterKey (n : Nat) : Tree → String
  | text s => " " ++ endLine (scalar (n + 2) s)
  | tagged tag s => " !" ++ tag ++ " " ++ endLine (scalar (n + 2) s)
  | flag b => if b then " true\n" else " false\n"
  | list [] => " []\n"
  | list items => "\n" ++ Tree.items n true items
  | record [] => " \x7b\x7d\n"
  | record fields => "\n" ++ Tree.fields (n + 2) true fields

/-- A tree behind the hyphen of a list that is indented by `n`. -/
def Tree.afterHyphen (n : Nat) : Tree → String
  | text s => endLine (scalar (n + 2) s)
  | tagged tag s => "!" ++ tag ++ " " ++ endLine (scalar (n + 2) s)
  | flag b => if b then "true\n" else "false\n"
  | list [] => "[]\n"
  | list items => Tree.items (n + 2) false items
  | record [] => "\x7b\x7d\n"
  | record fields => Tree.fields (n + 2) false fields

/-- The items of a list; the first one is indented unless it goes on a line begun. -/
def Tree.items (n : Nat) (indented : Bool) : List Tree → String
  | [] => ""
  | t :: rest =>
    (if indented then spaces n else "") ++ "- " ++ t.afterHyphen n ++ Tree.items n true rest

/-- The fields of a record; the first one is indented unless it goes on a line begun. -/
def Tree.fields (n : Nat) (indented : Bool) : List (String × Tree) → String
  | [] => ""
  | (key, t) :: rest =>
    (if indented then spaces n else "") ++ key ++ ":" ++ t.afterKey n ++ Tree.fields n true rest

end

/-- The document of a record. -/
def document (fields : List (String × Tree)) : String :=
  Tree.fields 0 true fields

end HostAccounts.Yaml
