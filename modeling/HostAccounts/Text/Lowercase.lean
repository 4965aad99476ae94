import HostAccounts.Text.CaseTable

/-!
# Lower case

Full lower-casing of a text: every character is replaced by its lower case, `İ` by two characters,
and a capital sigma by the final form at the end of a word. For text of the ASCII range only the
letters `A` to `Z` change.
-/

set_option autoImplicit false

namespace HostAccounts.Text

/-! ## ASCII -/

/-- The two texts are equal once the letters `A` to `Z` are taken for `a` to `z`. -/
def sameIgnoringCase (s t : String) : Bool :=
  s.toList.map Char.toLower == t.toList.map Char.toLower

theorem sameIgnoringCase_iff {s t : String} :
    sameIgnoringCase s t = true ↔ s.toList.map Char.toLower = t.toList.map Char.toLower := by
  simp [sameIgnoringCase]

@[simp] theorem sameIgnoringCase_refl (s : String) : sameIgnoringCase s s = true := by
  simp [sameIgnoringCase]

theorem sameIgnoringCase_symm {s t : String} (h : sameIgnoringCase s t = true) :
    sameIgnoringCase t s = true :=
  sameIgnoringCase_iff.2 (sameIgnoringCase_iff.1 h).symm

theorem sameIgnoringCase_trans {s t u : String} (h : sameIgnoringCase s t = true)
    (k : sameIgnoringCase t u = true) : sameIgnoringCase s u = true :=
  sameIgnoringCase_iff.2 ((sameIgnoringCase_iff.1 h).trans (sameIgnoringCase_iff.1 k))

/-- The text with the letters `A` to `Z` replaced by `a` to `z`. -/
def lowerAscii (s : String) : String :=
  String.ofList (s.toList.map Char.toLower)

/-! ## Single characters -/

/-- The lower case of a character outside the ASCII range, by table. -/
def lowerByTable (c : Char) : List Char :=
  let n := c.toNat
  if n = 0x130 then ['i', Char.ofNat 0x307]
  else
    match lowerTable.find? fun (lo, hi, step, _) => lo ≤ n && n ≤ hi && (n - lo) % step == 0 with
    | some (_, _, _, distance) => [Char.ofNat (Int.ofNat n + distance).toNat]
    | none => [c]

/-- The lower case of a character by itself. -/
def lowerChar (c : Char) : List Char :=
  if c.toNat < 0x80 then [c.toLower] else lowerByTable c

/-! ## Whole texts -/

/-- The first character that is not skipped is cased. -/
def meetsCased (cs : List Char) : Bool :=
  match cs.dropWhile fun c => caseIgnorableTable.holds c.toNat with
  | [] => false
  | c :: _ => casedTable.holds c.toNat

/-- The capital sigma, U+03A3. -/
def capitalSigma : Char := Char.ofNat 0x3A3

/-- The lower case of the text that follows `before`, which is held in reverse. A sigma takes its
final form behind a cased character when no cased one follows. -/
def lowerFrom (before : List Char) : List Char → List Char
  | [] => []
  | c :: cs =>
    let here :=
      if c = capitalSigma then
        [Char.ofNat (if meetsCased before && !meetsCased cs then 0x3C2 else 0x3C3)]
      else lowerChar c
    here ++ lowerFrom (c :: before) cs

/-- The text in lower case. -/
def lower (s : String) : String :=
  String.ofList (lowerFrom [] s.toList)

end HostAccounts.Text
