import HostAccounts.Proofs.CommandLine.Attributes
import HostAccounts.Proofs.Failure

/-!
# Pairs that make up attributes

A list of pairs is turned down at the first pair that has no equals sign, or nothing but blanks in
front of its first one. Otherwise it makes up one attribute for each name, without regard to case:
in the order and the spelling in which the names first come, each with all the texts that are given
to it, in order. As the names are then told apart, putting the attributes into a set replaces none
of them. Main statements: `spelled_eq_grouped`, `pairs_are_grouped`.
-/

set_option autoImplicit false

namespace HostAccounts.CommandLine

open AttributeSet (find?_of_mem_distinct ofList_of_distinct)

/-! ## Pairs that cannot be read -/

/-- What is wrong with a pair: it has no equals sign, or no name in front of its first one. -/
inductive IsDefect (pair : String) : ExpressionDefect → Prop where
  | unsplit (h : '=' ∉ pair.toList) : IsDefect pair (.malformedPair pair)
  | nameless {label value : String} (hpair : pair = label ++ "=" ++ value)
    (hlabel : '=' ∉ label.toList) (hblank : Text.isBlankText label = true) :
    IsDefect pair (.namelessPair pair)

theorem readPair_eq_error_iff {pair : String} {d : ExpressionDefect} :
    readPair pair = .error d ↔ IsDefect pair d := by
  constructor
  · intro h
    unfold readPair at h
    split at h
    · next hsplit =>
      obtain rfl := Except.error.inj h
      exact .unsplit (Text.splitFirst?_eq_none_iff.mp hsplit)
    · next label value hsplit =>
      obtain ⟨hpair, hlabel⟩ := Text.splitFirst?_eq_some_iff.mp hsplit
      dsimp only at h
      split at h
      · next hempty =>
        obtain rfl := Except.error.inj h
        exact .nameless hpair hlabel (Text.trim_eq_empty_iff.mp (String.isEmpty_iff.mp hempty))
      · cases h
  · intro h
    cases h with
    | unsplit h => rw [readPair, Text.splitFirst?_eq_none_iff.mpr h]
    | nameless hpair hlabel hblank =>
      rw [readPair, Text.splitFirst?_eq_some_iff.mpr ⟨hpair, hlabel⟩]
      simp [Text.trim_eq_empty_iff.mpr hblank]

/-- A pair can be read if nothing is wrong with it. -/
theorem exists_readPair_iff {pair : String} :
    (∃ read, readPair pair = .ok read) ↔ ¬ ∃ d, IsDefect pair d := by
  simp only [← readPair_eq_error_iff]
  cases readPair pair with
  | error d => simp
  | ok read => simp

theorem exists_written_iff {pairs : List String} :
    (∃ ps : List Pair, ps.map Pair.written = pairs) ↔ ∀ pair ∈ pairs, ¬ ∃ d, IsDefect pair d := by
  simp only [← exists_readPair_iff]
  constructor
  · rintro ⟨ps, rfl⟩ pair hpair
    obtain ⟨p, -, rfl⟩ := List.mem_map.mp hpair
    exact ⟨_, p.readPair_written⟩
  · intro h
    induction pairs with
    | nil => exact ⟨[], rfl⟩
    | cons pair rest ih =>
      obtain ⟨⟨read, hread⟩, hrest⟩ := List.forall_mem_cons.mp h
      obtain ⟨p, hp⟩ := Pair.exists_written_of_readPair hread
      obtain ⟨ps, hps⟩ := ih hrest
      exact ⟨p :: ps, by rw [List.map_cons, hp, hps]⟩

/-- A list of pairs is turned down for the first one that cannot be read. -/
theorem readAttributes_eq_error_iff {pairs : List String} {d : ExpressionDefect} :
    readAttributes pairs = .error d ↔ ∃ front pair back, pairs = front ++ pair :: back ∧
      (∀ other ∈ front, ¬ ∃ d, IsDefect other d) ∧ IsDefect pair d := by
  have hmap : readAttributes pairs = .error d ↔ pairs.mapM readPair = .error d := by
    constructor
    · intro h
      rcases eq_error_or_exists_of_bind_eq_error h with hread | ⟨read, -, hset⟩
      · exact hread
      · cases hset
    · intro h
      rw [readAttributes, h]
      rfl
  rw [hmap, mapM_eq_error_iff]
  simp only [exists_readPair_iff, readPair_eq_error_iff]

/-! ## What pairs make up -/

/-- The texts that the pairs give to a name, in order; an empty one gives nothing. -/
def textsUnder (ps : List Pair) (name : String) : List String :=
  ((ps.filter fun p => p.isNamed name).map Pair.value).filter fun v => !v.isEmpty

/-- One attribute for each name, as it is first spelled, with the texts that are given to it. -/
def grouped (ps : List Pair) : List Attribute :=
  (distinctNames (ps.map Pair.name)).map fun name => ⟨name, (textsUnder ps name).map .text⟩

theorem flatMap_values (ps : List Pair) :
    ps.flatMap Pair.values = ((ps.map Pair.value).filter fun v => !v.isEmpty).map .text := by
  induction ps with
  | nil => rfl
  | cons p rest ih =>
    rw [List.flatMap_cons, ih, List.map_cons, List.filter_cons, Pair.values]
    cases p.value.isEmpty <;> rfl

theorem foldl_extend (a : Attribute) (ps : List Pair) :
    ps.foldl extend (some a) = some { a with values := a.values ++ ps.flatMap Pair.values } := by
  induction ps generalizing a with
  | nil => rw [List.foldl_nil, List.flatMap_nil, List.append_nil]
  | cons p rest ih =>
    rw [List.foldl_cons, extend, ih, List.flatMap_cons, List.append_assoc]

/-- What an attribute says is all that pairs of its name say. -/
theorem values_of_mem_spelled {ps : List Pair} {a : Attribute} (ha : a ∈ spelled [] ps) :
    a.values = (textsUnder ps a.name).map .text := by
  have hfound := find?_of_mem_distinct (areDistinct_spelled ps) ha
  rw [find?_spelled] at hfound
  rw [textsUnder, ← flatMap_values]
  cases hps : ps.filter fun p => p.isNamed a.name with
  | nil =>
    rw [hps] at hfound
    cases hfound
  | cons p rest =>
    have hfirst : extend none p = some ⟨p.name, p.values⟩ := rfl
    rw [hps, List.find?_nil, List.foldl_cons, hfirst, foldl_extend, Option.some.injEq] at hfound
    rw [List.flatMap_cons, ← hfound]

theorem spelled_eq_grouped (ps : List Pair) : spelled [] ps = grouped ps := by
  calc spelled [] ps
      = (spelled [] ps).map fun a => ⟨a.name, (textsUnder ps a.name).map .text⟩ := by
        conv => lhs; rw [← List.map_id (spelled [] ps)]
        refine List.map_congr_left fun a ha => ?_
        rw [← values_of_mem_spelled ha]
        rfl
    _ = ((spelled [] ps).map Attribute.name).map
          fun name => ⟨name, (textsUnder ps name).map .text⟩ := by
        rw [List.map_map]
        rfl
    _ = grouped ps := by rw [map_name_spelled_nil, grouped]

theorem readAttributes_eq_ok_iff {pairs : List String} {s : AttributeSet} :
    readAttributes pairs = .ok s ↔
      ∃ ps : List Pair, ps.map Pair.written = pairs ∧ s.entries = grouped ps := by
  have hread : ∀ ps : List Pair, readAttributes (ps.map Pair.written) = .ok ⟨grouped ps⟩ := by
    intro ps
    rw [readAttributes_written, ofList_of_distinct (areDistinct_spelled ps), spelled_eq_grouped]
  constructor
  · intro h
    obtain ⟨read, hmap, -⟩ := exists_of_bind_eq_ok h
    have hreadable : ∀ pair ∈ pairs, ¬ ∃ d, IsDefect pair d := fun pair hpair =>
      exists_readPair_iff.mp (exists_of_mapM_eq_ok hmap pair hpair)
    obtain ⟨ps, rfl⟩ := exists_written_iff.mpr hreadable
    obtain rfl := Except.ok.inj ((hread ps).symm.trans h)
    exact ⟨ps, rfl, rfl⟩
  · rintro ⟨ps, rfl, hentries⟩
    rw [hread, ← hentries]

theorem exists_readAttributes_eq_error_iff {pairs : List String} :
    (∃ d, readAttributes pairs = .error d) ↔ ∃ pair ∈ pairs, ∃ d, IsDefect pair d := by
  constructor
  · rintro ⟨d, h⟩
    obtain ⟨front, pair, back, rfl, -, hpair⟩ := readAttributes_eq_error_iff.mp h
    exact ⟨pair, List.mem_append_right _ (List.mem_cons_self ..), d, hpair⟩
  · rintro ⟨pair, hpair, hdefect⟩
    cases h : readAttributes pairs with
    | error d => exact ⟨d, rfl⟩
    | ok s =>
      obtain ⟨ps, hps, -⟩ := readAttributes_eq_ok_iff.mp h
      exact absurd hdefect (exists_written_iff.mp ⟨ps, hps⟩ pair hpair)

/-- A list of pairs is turned down exactly if something is wrong with one of them, and then for the
first such pair. Otherwise it makes up one attribute for each name that the pairs speak of, in the
order and the spelling in which the names first come, each with the texts that are given to it. The
attributes are put into the empty set one after the other, and none of them replaces another. -/
theorem pairs_are_grouped (pairs : List String) :
    ((∃ d, readAttributes pairs = .error d) ↔ ∃ pair ∈ pairs, ∃ d, IsDefect pair d) ∧
    (∀ d, readAttributes pairs = .error d ↔ ∃ front pair back, pairs = front ++ pair :: back ∧
      (∀ other ∈ front, ¬ ∃ d, IsDefect other d) ∧ IsDefect pair d) ∧
    (∀ s, readAttributes pairs = .ok s ↔
      ∃ ps : List Pair, ps.map Pair.written = pairs ∧ s.entries = grouped ps) ∧
    ∀ ps : List Pair, readAttributes (ps.map Pair.written) = .ok (.ofList (spelled [] ps)) ∧
      ∀ front a back, spelled [] ps = front ++ a :: back →
        (AttributeSet.ofList front).contains a.name = false := by
  refine ⟨exists_readAttributes_eq_error_iff, fun d => readAttributes_eq_error_iff,
    fun s => readAttributes_eq_ok_iff, fun ps => ⟨readAttributes_written ps, ?_⟩⟩
  intro front a back hsplit
  have hdistinct := areDistinct_spelled ps
  rw [hsplit] at hdistinct
  obtain ⟨hfront, -, hlast⟩ := List.pairwise_append.mp hdistinct
  rw [ofList_of_distinct hfront, AttributeSet.contains, List.any_eq_false]
  intro b hb
  rw [hlast b hb a (List.mem_cons_self ..)]
  exact Bool.false_ne_true

end HostAccounts.CommandLine
