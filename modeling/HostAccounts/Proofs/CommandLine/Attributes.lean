import HostAccounts.CommandLine.Expression
import HostAccounts.Proofs.Attribute.History
import HostAccounts.Proofs.Text.Pieces

/-!
# Attributes on the command line

What a list of pairs says under a name is what its pairs of that name say, one after the other;
pairs of other names have no part in it. So lists that differ only in how pairs of different names
are mixed spell sets that agree. Main statements: `entry?_readAttributes`, `Reorders.agrees`.
-/

set_option autoImplicit false

namespace HostAccounts

/-! ## Sets that agree -/

namespace AttributeSet

/-- Under every name the sets say the same. They may differ in the order of their attributes. -/
def Agrees (a b : AttributeSet) : Prop :=
  ∀ name, a.entry? name = b.entry? name

end AttributeSet

namespace CommandLine

open AttributeSet (AreDistinct)

/-! ## Pairs -/

/-- A pair that can be read: its label holds no equals sign and is not blank. -/
structure Pair where
  label : String
  value : String
  unsplit : '=' ∉ label.toList
  named : Text.isBlankText label = false
  deriving DecidableEq

namespace Pair

/-- The pair as it is written. -/
def written (p : Pair) : String :=
  p.label ++ "=" ++ p.value

/-- The name that the pair speaks of. -/
def name (p : Pair) : String :=
  Text.trim p.label

/-- The values that the pair adds. -/
def values (p : Pair) : List Value :=
  if p.value.isEmpty then [] else [.text p.value]

/-- The pair speaks of the name. -/
def isNamed (p : Pair) (name : String) : Bool :=
  Text.sameIgnoringCase p.name name

theorem readPair_written (p : Pair) : readPair p.written = .ok (p.name, p.value) := by
  have hcut : Text.splitFirst? '=' p.written = some (p.label, p.value) :=
    Text.splitFirst?_eq_some_iff.mpr ⟨rfl, p.unsplit⟩
  have hname : (Text.trim p.label).isEmpty = false := by
    rw [Bool.eq_false_iff]
    intro hempty
    have hblank := Text.trim_eq_empty_iff.mp (String.isEmpty_iff.mp hempty)
    rw [p.named] at hblank
    cases hblank
  simp only [readPair, hcut, hname]
  rfl

/-- No other texts can be read. -/
theorem exists_written_of_readPair {text : String} {read : String × String}
    (h : readPair text = .ok read) : ∃ p : Pair, p.written = text := by
  unfold readPair at h
  split at h
  · cases h
  · next label value hsplit =>
    obtain ⟨rfl, hunsplit⟩ := Text.splitFirst?_eq_some_iff.mp hsplit
    have hnamed : Text.isBlankText label = false := by
      rw [Bool.eq_false_iff]
      intro hblank
      rw [← Text.trim_eq_empty_iff] at hblank
      simp [hblank] at h
    exact ⟨⟨label, value, hunsplit, hnamed⟩, rfl⟩

end Pair

/-- The attributes that the pairs spell, in front of which others stand. -/
def spelled (as : List Attribute) (ps : List Pair) : List Attribute :=
  ps.foldl (fun as p => addValues p.name p.values as) as

theorem readAttributes_written (ps : List Pair) :
    readAttributes (ps.map Pair.written) = .ok (.ofList (spelled [] ps)) := by
  have hread : (ps.map Pair.written).mapM readPair = .ok (ps.map fun p => (p.name, p.value)) := by
    induction ps with
    | nil => rfl
    | cons p rest ih => rw [List.map_cons, List.mapM_cons, p.readPair_written, ih]; rfl
  have hspelled : (ps.map fun p => (p.name, p.value)).foldl (fun as pair =>
      addValues pair.1 (if pair.2.isEmpty then [] else [.text pair.2]) as) [] = spelled [] ps :=
    List.foldl_map
  rw [readAttributes, hread, ← hspelled]
  rfl

/-! ## What is said under a name -/

/-- An attribute with what a pair adds to it, or the attribute that the pair begins. -/
def extend (entry : Option Attribute) (p : Pair) : Option Attribute :=
  match entry with
  | some a => some { a with values := a.values ++ p.values }
  | none => some ⟨p.name, p.values⟩

theorem find?_addValues (p : Pair) (name : String) (as : List Attribute) :
    (addValues p.name p.values as).find? (fun a => a.isNamed name) =
      if p.isNamed name then extend (as.find? fun a => a.isNamed name) p
      else as.find? fun a => a.isNamed name := by
  induction as with
  | nil =>
    have hnew : Attribute.isNamed ⟨p.name, p.values⟩ name = p.isNamed name := rfl
    rw [addValues, List.find?_singleton, hnew]
    cases p.isNamed name <;> rfl
  | cons a rest ih =>
    rw [addValues]
    split
    · next hsame =>
      -- The attribute goes by the name of the pair, so both go by the name that is asked for, or
      -- neither does.
      have hname : a.isNamed name = p.isNamed name := by
        rw [Bool.eq_iff_iff]
        exact ⟨Text.sameIgnoringCase_trans (Text.sameIgnoringCase_symm hsame),
          Text.sameIgnoringCase_trans hsame⟩
      have hkept : Attribute.isNamed { a with values := a.values ++ p.values } name =
          p.isNamed name := hname
      rw [List.find?_cons, List.find?_cons, hkept, hname]
      cases p.isNamed name <;> rfl
    · next hother =>
      rw [List.find?_cons, List.find?_cons, ih]
      cases hname : a.isNamed name with
      | false => rfl
      | true =>
        have hp : p.isNamed name = false := by
          rw [Bool.eq_false_iff]
          intro hp
          exact hother (Text.sameIgnoringCase_trans hname (Text.sameIgnoringCase_symm hp))
        rw [hp]
        rfl

/-- Only the pairs of a name have a part in what is said under it. -/
theorem find?_spelled (as : List Attribute) (ps : List Pair) (name : String) :
    (spelled as ps).find? (fun a => a.isNamed name) =
      (ps.filter fun p => p.isNamed name).foldl extend (as.find? fun a => a.isNamed name) := by
  induction ps generalizing as with
  | nil => rfl
  | cons p rest ih =>
    have hstep : spelled as (p :: rest) = spelled (addValues p.name p.values as) rest := rfl
    rw [hstep, ih, find?_addValues, List.filter_cons]
    cases p.isNamed name <;> rfl

/-! ## Distinct names -/

/-- A name that is there stays where it is, and a new one comes in at the end. -/
theorem map_name_addValues (name : String) (values : List Value) (as : List Attribute) :
    (addValues name values as).map Attribute.name =
      if (as.map Attribute.name).any (Text.sameIgnoringCase name) then as.map Attribute.name
      else as.map Attribute.name ++ [name] := by
  induction as with
  | nil => rfl
  | cons a rest ih =>
    have hsame : Text.sameIgnoringCase name a.name = a.isNamed name := by
      rw [Bool.eq_iff_iff]
      exact ⟨Text.sameIgnoringCase_symm, Text.sameIgnoringCase_symm⟩
    rw [addValues, List.map_cons, List.any_cons, hsame]
    cases a.isNamed name with
    | true => rfl
    | false =>
      rw [if_neg Bool.false_ne_true, List.map_cons, ih, Bool.false_or]
      split <;> rfl

/-- Each name stands where a pair first speaks of it, as that pair spells it. -/
theorem map_name_spelled {as : List Attribute} {names : List String}
    (h : as.map Attribute.name = distinctNames names) (ps : List Pair) :
    (spelled as ps).map Attribute.name = distinctNames (names ++ ps.map Pair.name) := by
  induction ps generalizing as names with
  | nil => rwa [List.map_nil, List.append_nil]
  | cons p rest ih =>
    have hstep : (addValues p.name p.values as).map Attribute.name =
        distinctNames (names ++ [p.name]) := by
      rw [map_name_addValues, h, distinctNames_append_singleton]
    have hrest := ih hstep
    rwa [List.append_assoc] at hrest

/-- Attributes that are spelled from nothing have the names of the pairs, each once. -/
theorem map_name_spelled_nil (ps : List Pair) :
    (spelled [] ps).map Attribute.name = distinctNames (ps.map Pair.name) := by
  have hnil : ([] : List Attribute).map Attribute.name = distinctNames [] := rfl
  exact map_name_spelled hnil ps

theorem areDistinct_spelled (ps : List Pair) : AreDistinct (spelled [] ps) := by
  have hkeys : (spelled [] ps).map Attribute.key =
      ((spelled [] ps).map Attribute.name).map Text.lowerAscii := List.map_map.symm
  rw [AttributeSet.areDistinct_iff, hkeys, map_name_spelled_nil]
  exact AttributeSet.nodup_distinctNames _

/-- What is read of pairs says under a name what its pairs say, one after the other. -/
theorem entry?_readAttributes {ps : List Pair} {a : AttributeSet}
    (h : readAttributes (ps.map Pair.written) = .ok a) (name : String) :
    a.entry? name = (ps.filter fun p => p.isNamed name).foldl extend none := by
  rw [readAttributes_written] at h
  obtain rfl := Except.ok.inj h
  rw [AttributeSet.ofList_of_distinct (areDistinct_spelled ps)]
  exact find?_spelled [] ps name

/-! ## Pairs in another order -/

/-- The same pairs in another order, in which those of one name have kept theirs. -/
structure Reorders (ps qs : List Pair) : Prop where
  perm : ps.Perm qs
  kept : ∀ name, ps.filter (fun p => p.isNamed name) = qs.filter fun q => q.isNamed name

/-- Neighbours of different names may change places. -/
theorem reorders_swap {p q : Pair} (h : p.isNamed q.name = false) (front back : List Pair) :
    Reorders (front ++ p :: q :: back) (front ++ q :: p :: back) := by
  refine ⟨(List.Perm.swap q p back).append_left front, fun name => ?_⟩
  have hone : p.isNamed name = false ∨ q.isNamed name = false := by
    rw [← Bool.and_eq_false_iff, Bool.eq_false_iff]
    intro hboth
    obtain ⟨hp, hq⟩ := Bool.and_eq_true_iff.mp hboth
    have hsame := Text.sameIgnoringCase_trans hp (Text.sameIgnoringCase_symm hq)
    rw [Pair.isNamed, hsame] at h
    cases h
  simp only [List.filter_append, List.filter_cons]
  rcases hone with hp | hq
  · simp [hp]
  · simp [hq]

/-- Both can be read, and say the same. -/
theorem Reorders.agrees {ps qs : List Pair} (h : Reorders ps qs) :
    ∃ a b, readAttributes (ps.map Pair.written) = .ok a ∧
      readAttributes (qs.map Pair.written) = .ok b ∧ a.Agrees b := by
  refine ⟨_, _, readAttributes_written ps, readAttributes_written qs, fun name => ?_⟩
  rw [entry?_readAttributes (readAttributes_written ps),
    entry?_readAttributes (readAttributes_written qs), h.kept name]

end CommandLine

end HostAccounts
