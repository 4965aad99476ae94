import HostAccounts.Pattern.Reading

/-!
# Checking patterns

Which patterns can be built. Without tables of the characters of other scripts, a pattern may ask
for the case and the classes of letters only where the text is made up of bytes, and even then it
must not stand for a part of a character. Where a word begins or ends is only known among bytes.
-/

set_option autoImplicit false

namespace HostAccounts.Pattern

/-! ## Defects -/

/-- Why a pattern cannot be built. -/
inductive Defect where
  | malformed
  /-- It asks for the edges of words among all characters. -/
  | wideWordEdge
  deriving DecidableEq, Repr

/-- The defect in words. -/
def Defect.message : Defect → String
  | malformed => "error building NFA"
  | wideWordEdge => "unsupported regex feature for DFAs: cannot build DFAs for regexes with " ++
    "Unicode word boundaries; switch to ASCII word boundaries, or heuristically enable Unicode " ++
    "word boundaries or use a different regex engine"

/-! ## Modes -/

/-- How a part of a pattern is read. -/
structure Mode where
  /-- The text is made up of characters, not of bytes. -/
  unicode : Bool := true
  /-- The case of letters does not matter. -/
  caseless : Bool := false
  deriving DecidableEq, Repr

/-- The mode with switches set. -/
def Mode.switch (m : Mode) (s : Setting) : Mode where
  unicode := s.get .unicode m.unicode
  caseless := s.get .caseless m.caseless

/-! ## Fitting a mode -/

/-- The character is one of ASCII. -/
def Literal.isAscii (x : Literal) : Bool :=
  x.char.toNat < 0x80

/-- The character can stand for itself. -/
def Literal.fits (m : Mode) (x : Literal) : Bool :=
  if m.unicode then !m.caseless else !x.isByte || x.isAscii

/-- The character can be in a set. -/
def Literal.fitsSet (m : Mode) (x : Literal) : Bool :=
  if m.unicode then !m.caseless else x.isAscii

/-- A class of characters by its letter is at hand. -/
def fitsShort (m : Mode) (negated : Bool) : Bool :=
  !m.unicode && !negated

/-- A set in brackets holds no bytes that are parts of characters. -/
def fitsBrackets (m : Mode) (negated : Bool) : Bool :=
  m.unicode || !negated

mutual
/-- The set is one of whole characters that are known. -/
def CharSet.fits (m : Mode) : CharSet → Bool
  | .literal x => x.fitsSet m
  | .range first last => first.fitsSet m && last.fitsSet m
  | .short negated => fitsShort m negated
  | .named negated => if m.unicode then !m.caseless else !negated
  | .union sets => CharSet.allFit m sets
  | .combined left right => left.fits m && right.fits m
  | .bracketed negated inside => fitsBrackets m negated && inside.fits m

/-- Each of the sets is one of whole characters that are known. -/
def CharSet.allFit (m : Mode) : List CharSet → Bool
  | [] => true
  | set :: sets => set.fits m && CharSet.allFit m sets
end

/-! ## Patterns -/

/-- The defect, unless the condition holds. -/
def expect (holds : Bool) (d : Defect) : List Defect :=
  if holds then [] else [d]

mutual
/-- The defects of a pattern that is read in a mode, and the mode behind it. -/
def defects (m : Mode) : Pattern → List Defect × Mode
  | .literal x => (expect (x.fits m) .malformed, m)
  | .anything => (expect m.unicode .malformed, m)
  | .short negated => (expect (fitsShort m negated) .malformed, m)
  | .oneOf negated inside => (expect (fitsBrackets m negated && inside.fits m) .malformed, m)
  | .edge => ([], m)
  | .wordEdge => (expect (!m.unicode) .wideWordEdge, m)
  | .switches s => ([], m.switch s)
  | .repetition p => p.defects m
  | .group s inside => ((inside.defects (m.switch s)).1, m)
  | .sequence ps | .alternatives ps => allDefects m ps

/-- The defects of patterns that are read one after the other, and the mode behind them. -/
def allDefects (m : Mode) : List Pattern → List Defect × Mode
  | [] => ([], m)
  | p :: ps =>
    let (first, m) := p.defects m
    let (others, m) := allDefects m ps
    (first ++ others, m)
end

/-- A text is a pattern that can be built; what is malformed is found before edges of words. -/
def check (s : String) : Except Defect Unit :=
  match ofText? s with
  | none => .error .malformed
  | some p =>
    let ds := (p.defects {}).1
    if ds.contains .malformed then .error .malformed
    else if ds.isEmpty then .ok () else .error .wideWordEdge

end HostAccounts.Pattern
