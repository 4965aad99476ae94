/-!
# Pieces of a text

Counting bytes, cutting at a separator, reading line by line, and finding or replacing a part. The
list functions recurse on the characters; the text functions wrap them. Main statements: joining the
pieces gives the text back, and no piece holds the separator.
-/

set_option autoImplicit false

namespace HostAccounts.Text

/-! ## Bytes -/

/-- The number of bytes that the characters take up. -/
def byteCount (cs : List Char) : Nat :=
  cs.foldr (fun c n => c.utf8Size + n) 0

/-! ## Cutting at a separator -/

/-- The pieces between separators; there is one more of them than there are separators. -/
def pieces (sep : Char) : List Char → List (List Char)
  | [] => [[]]
  | c :: cs =>
    if c = sep then [] :: pieces sep cs
    else
      match pieces sep cs with
      | [] => [[c]]
      | p :: ps => (c :: p) :: ps

theorem pieces_ne_nil (sep : Char) (cs : List Char) : pieces sep cs ≠ [] := by
  cases cs with
  | nil => simp [pieces]
  | cons c cs =>
    rw [pieces]
    split
    · simp
    · split <;> simp

/-- Joining the pieces with the separator gives the text back. -/
theorem intercalate_pieces (sep : Char) (cs : List Char) :
    [sep].intercalate (pieces sep cs) = cs := by
  induction cs with
  | nil => rfl
  | cons c cs ih =>
    rw [pieces]
    split
    · next h =>
      cases hp : pieces sep cs with
      | nil => exact absurd hp (pieces_ne_nil sep cs)
      | cons p ps => rw [hp] at ih; simp [List.intercalate_cons_cons, ih, h]
    · next h =>
      cases hp : pieces sep cs with
      | nil => exact absurd hp (pieces_ne_nil sep cs)
      | cons p ps =>
        rw [hp] at ih
        cases ps with
        | nil => simpa using ih
        | cons q qs => simpa [List.intercalate_cons_cons] using ih

/-- No piece holds the separator. -/
theorem not_mem_of_mem_pieces {sep : Char} {cs p : List Char} (h : p ∈ pieces sep cs) :
    sep ∉ p := by
  induction cs generalizing p with
  | nil => simp_all [pieces]
  | cons c cs ih =>
    rw [pieces] at h
    split at h
    · rcases List.mem_cons.1 h with rfl | h
      · simp
      · exact ih h
    · next hc =>
      cases hp : pieces sep cs with
      | nil => exact absurd hp (pieces_ne_nil sep cs)
      | cons q qs =>
        rw [hp] at h ih
        rcases List.mem_cons.1 h with rfl | h
        · intro hm
          rcases List.mem_cons.1 hm with rfl | hm
          · exact hc rfl
          · exact ih (List.mem_cons_self ..) hm
        · exact ih (List.mem_cons_of_mem _ h)

/-- The text cut at every separator. -/
def splitOn (sep : Char) (s : String) : List String :=
  (pieces sep s.toList).map String.ofList

/-- What stands before and behind the first character of the class, if there is one. -/
def cutAt? (p : Char → Bool) : List Char → Option (List Char × List Char)
  | [] => none
  | c :: cs => if p c then some ([], cs) else (cutAt? p cs).map fun (a, b) => (c :: a, b)

/-- The text before and behind the first separator, if there is one. -/
def splitFirst? (sep : Char) (s : String) : Option (String × String) :=
  (cutAt? (· == sep) s.toList).map fun (a, b) => (String.ofList a, String.ofList b)

/-- The text without its last character, if that is the given one. -/
def dropLast? (c : Char) (s : String) : Option String :=
  if s.toList.getLast? = some c then some (String.ofList s.toList.dropLast) else none

/-- The text without its first character, if that is the given one. -/
def dropFirst? (c : Char) (s : String) : Option String :=
  match s.toList with
  | d :: cs => if d = c then some (String.ofList cs) else none
  | [] => none

/-! ## Lines -/

/-- The list without one carriage return at its end. -/
def dropReturn (cs : List Char) : List Char :=
  if cs.getLast? = some '\r' then cs.dropLast else cs

/-- The lines of a text: each ends at a line feed and loses one carriage return in front of it.
A last line without a line feed counts if it is not empty, and keeps its carriage return. -/
def lineList (cs : List Char) : List (List Char) :=
  let ps := pieces '\n' cs
  let last := ps.getLastD []
  ps.dropLast.map dropReturn ++ if last.isEmpty then [] else [last]

/-- The lines of a text, as `lineList` cuts them. -/
def lines (s : String) : List String :=
  (lineList s.toList).map String.ofList

/-! ## Finding and replacing -/

/-- What follows the first occurrence of the part, if it occurs. -/
def after? (part : List Char) : List Char → Option (List Char)
  | [] => if part.isEmpty then some [] else none
  | c :: cs =>
    if part.isPrefixOf (c :: cs) then some ((c :: cs).drop part.length) else after? part cs

/-- The part occurs in the list. -/
def occursIn (part cs : List Char) : Bool :=
  (after? part cs).isSome

/-- The part occurs in the text. -/
def contains (s part : String) : Bool :=
  occursIn part.toList s.toList

/-- Replaces from left to right what does not overlap, with `skip` characters still to pass over.
The empty part stands in front of every character and at the end. -/
def replaceFrom (part new : List Char) : Nat → List Char → List Char
  | _, [] => if part.isEmpty then new else []
  | k + 1, _ :: cs => replaceFrom part new k cs
  | 0, c :: cs =>
    if part.isEmpty then new ++ c :: replaceFrom part new 0 cs
    else if part.isPrefixOf (c :: cs) then new ++ replaceFrom part new (part.length - 1) cs
    else c :: replaceFrom part new 0 cs

/-- The text with every occurrence of the part replaced. -/
def replaceAll (part new s : String) : String :=
  String.ofList (replaceFrom part.toList new.toList 0 s.toList)

end HostAccounts.Text
