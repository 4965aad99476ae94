/-!
# Patterns

Regular expressions, with as much of them as matters to whether they can be built: how deep they
are nested, and what depends on the switches that hold where it stands.
-/

set_option autoImplicit false

namespace HostAccounts

namespace Pattern

/-! ## Switches -/

/-- What can be switched on and off inside a pattern. -/
inductive Switch where
  /-- The case of letters does not matter. -/
  | caseless
  /-- Every line has its own beginning and end. -/
  | lines
  /-- The dot stands for the end of a line, too. -/
  | wideDot
  /-- Repetitions are short unless they are marked. -/
  | lazy
  /-- The text is made up of characters, not of bytes. -/
  | unicode
  /-- A carriage return belongs to the end of a line. -/
  | returns
  /-- Blanks and comments do not count. -/
  | spaced
  deriving DecidableEq, Repr

/-- The switch with a letter. -/
def Switch.ofLetter? : Char → Option Switch
  | 'i' => some caseless
  | 'm' => some lines
  | 's' => some wideDot
  | 'U' => some lazy
  | 'u' => some unicode
  | 'R' => some returns
  | 'x' => some spaced
  | _ => none

/-- Switches with what they are set to. -/
abbrev Setting := List (Switch × Bool)

/-- What a switch is set to, or else what it was before. -/
def Setting.get (s : Setting) (switch : Switch) (before : Bool) : Bool :=
  (s.lookup switch).getD before

/-! ## Characters -/

/-- A character that stands for itself. -/
structure Literal where
  char : Char
  /-- It is written as a byte, in two hexadecimal digits. -/
  isByte : Bool := false
  deriving DecidableEq, Repr

/-- A set of characters. -/
inductive CharSet where
  | literal (x : Literal)
  | range (first last : Literal)
  /-- Digits, blanks or the characters of words, by a single letter. -/
  | short (negated : Bool)
  /-- A class of ASCII characters by its name. -/
  | named (negated : Bool)
  | union (sets : List CharSet)
  /-- Two sets with an operator between them. -/
  | combined (left right : CharSet)
  | bracketed (negated : Bool) (inside : CharSet)

end Pattern

/-- A pattern. -/
inductive Pattern where
  | literal (x : Pattern.Literal)
  /-- Any character. -/
  | anything
  /-- Digits, blanks or the characters of words, by a single letter. -/
  | short (negated : Bool)
  /-- A character of a set, or one that is not in it. -/
  | oneOf (negated : Bool) (inside : Pattern.CharSet)
  /-- The beginning or the end of a line or of the text. -/
  | edge
  /-- The beginning or the end of a word, or a place that is neither. -/
  | wordEdge
  /-- Sets switches for what follows in the same group. -/
  | switches (s : Pattern.Setting)
  | repetition (p : Pattern)
  /-- A group, inside which switches are set. -/
  | group (s : Pattern.Setting) (inside : Pattern)
  | sequence (ps : List Pattern)
  | alternatives (ps : List Pattern)

namespace Pattern

/-! ## Nesting -/

/-- The depth of parts side by side. A single part is not nested. -/
def joined (count greatest : Nat) : Nat :=
  if count < 2 then greatest else greatest + 1

mutual
/-- How deep a set is nested. -/
def CharSet.depth : CharSet → Nat
  | .literal _ | .range _ _ | .short _ | .named _ => 0
  | .union sets => joined sets.length (CharSet.greatestDepth sets)
  | .combined left right => max left.depth right.depth + 1
  | .bracketed _ inside => inside.depth + 1

/-- How deep the deepest of sets is nested. -/
def CharSet.greatestDepth : List CharSet → Nat
  | [] => 0
  | set :: sets => max set.depth (CharSet.greatestDepth sets)
end

mutual
/-- How deep a pattern is nested. -/
def depth : Pattern → Nat
  | .literal _ | .anything | .short _ | .edge | .wordEdge | .switches _ => 0
  | .oneOf _ inside => inside.depth + 1
  | .repetition p => p.depth + 1
  | .group _ inside => inside.depth + 1
  | .sequence ps | .alternatives ps => joined ps.length (greatestDepth ps)

/-- How deep the deepest of patterns is nested. -/
def greatestDepth : List Pattern → Nat
  | [] => 0
  | p :: ps => max p.depth (greatestDepth ps)
end

/-- How deep a pattern may be nested. -/
def depthLimit : Nat := 250

end Pattern

end HostAccounts
