import HostAccounts.Pattern.Escape
import HostAccounts.Text.Pieces

/-!
# Sets in brackets

Members, ranges and classes by name, and sets inside sets. Sets are combined from left to right by
operators, which bind less closely than standing side by side.
-/

set_option autoImplicit false

namespace HostAccounts.Pattern

/-! ## Members -/

/-- The names of the classes of ASCII characters. -/
def classNames : List String :=
  ["alnum", "alpha", "ascii", "blank", "cntrl", "digit", "graph", "lower", "print", "punct",
    "space", "upper", "word", "xdigit"]

/-- A class by its name, behind the bracket that opens it. -/
def named? : List Char → Option (CharSet × List Char)
  | ':' :: cs =>
    let (negated, cs) := match cs with
      | '^' :: rest => (true, rest)
      | _ => (false, cs)
    match Text.cutAt? (· == ':') cs with
    | some (name, ']' :: rest) =>
      if classNames.contains (String.ofList name) then some (.named negated, rest) else none
    | _ => none
  | _ => none

/-- A set may begin with a mark that negates it. -/
def negation (spaced : Bool) (cs : List Char) : Bool × List Char :=
  match skip spaced cs with
  | '^' :: rest => (true, rest)
  | rest => (false, rest)

/-- A single character or a class by its letter, in a set. -/
def member? (spaced : Bool) : List Char → Option (CharSet × List Char)
  | [] => none
  | '\\' :: cs =>
    match escape? spaced cs with
    | some (.literal x, rest) => some (.literal x, rest)
    | some (.short negated, rest) => some (.short negated, rest)
    | _ => none
  | c :: cs => some (.literal ⟨c, false⟩, cs)

/-- The character behind a hyphen that shows what the hyphen stands for. The end of a comment does
not count. -/
def behindHyphen? (spaced : Bool) (cs : List Char) : Option Char :=
  let behind := cs.dropWhile Text.isBlank
  let behind := match behind with
    | '#' :: rest => rest.dropWhile Text.isBlank
    | _ => behind
  if spaced then behind.head?.or cs.head? else cs.head?

/-- A member of a set, or a range from one to another. -/
def range? (spaced : Bool) (cs : List Char) : Option (CharSet × List Char) := do
  let (first, rest) ← member? spaced cs
  match skip spaced rest with
  | '-' :: more =>
    if (behindHyphen? spaced more).any fun c => c = ']' || c = '-' then some (first, '-' :: more)
    else
      let (last, rest) ← member? spaced (skip spaced more)
      match first, last with
      | .literal a, .literal b =>
        if a.char.toNat ≤ b.char.toNat then some (.range a b, rest) else none
      | _, _ => none
  | rest => some (first, rest)

/-! ## Sets -/

/-- A set under way of being read. -/
structure SetDraft where
  /-- What stands in front of the last operator. -/
  left : Option CharSet := none
  /-- What stands behind it. -/
  sets : List CharSet := []
  /-- At most hyphens have been read. -/
  fresh : Bool := true

namespace SetDraft

/-- What has been read. -/
def whole (d : SetDraft) : CharSet :=
  match d.left with
  | some left => .combined left (.union d.sets)
  | none => .union d.sets

/-- The draft with one more set. -/
def add (d : SetDraft) (set : CharSet) : SetDraft :=
  { d with sets := d.sets ++ [set], fresh := false }

/-- The draft behind an operator. -/
def combine (d : SetDraft) : SetDraft :=
  { left := some d.whole, fresh := false }

/-- The draft with a mark that stands for itself at the beginning: a hyphen, or else a bracket. -/
def begin? (d : SetDraft) (c : Char) : Option SetDraft :=
  if d.fresh && (c = '-' || (c = ']' && d.sets.isEmpty)) then
    some { d.add (.literal ⟨c, false⟩) with fresh := c = '-' }
  else none

end SetDraft

/-- What stands in a set, up to the bracket that ends it. -/
def inside? (spaced : Bool) : Nat → SetDraft → List Char → Option (CharSet × List Char)
  | 0, _, _ => none
  | fuel + 1, d, cs =>
    match skip spaced cs with
    | [] => none
    | c :: rest =>
      match d.begin? c with
      | some d => inside? spaced fuel d rest
      | none =>
        if c = ']' then some (d.whole, rest)
        else if c = '[' then
          match named? rest with
          | some (set, rest) => inside? spaced fuel (d.add set) rest
          | none => do
            let (negated, rest) := negation spaced rest
            let (set, rest) ← inside? spaced fuel {} rest
            inside? spaced fuel (d.add (.bracketed negated set)) rest
        else if (c = '&' || c = '-' || c = '~') && rest.head? = some c then
          inside? spaced fuel d.combine (rest.drop 1)
        else do
          let (set, rest) ← range? spaced (c :: rest)
          inside? spaced fuel (d.add set) rest

/-- A set behind the bracket that opens it. -/
def set? (spaced : Bool) (cs : List Char) : Option (Pattern × List Char) := do
  let (negated, rest) := negation spaced cs
  let (inside, rest) ← inside? spaced (rest.length + 1) {} rest
  return (.oneOf negated inside, rest)

end HostAccounts.Pattern
