import HostAccounts.Proofs.Attribute

/-!
# Sets and what was inserted into them

A set of attributes comes about by insertions into the empty set. Of all that was inserted under a
name, it holds the last, in its spelling and with its values, and it holds it where the name first
came in. What is said under a name is what that last one says, or nothing if it has no values. Main
statements: `Keeps.insert`, for one insertion, and `insertions_are_kept`, for any number of them.
-/

set_option autoImplicit false

namespace HostAccounts

/-! ## Names without regard to case -/

theorem Text.sameIgnoringCase_iff_lowerAscii {s t : String} :
    Text.sameIgnoringCase s t = true ↔ Text.lowerAscii s = Text.lowerAscii t := by
  rw [Text.sameIgnoringCase_iff, Text.lowerAscii, Text.lowerAscii, String.ofList_inj]

/-- The name of an attribute, in lower case. -/
def Attribute.key (a : Attribute) : String :=
  Text.lowerAscii a.name

theorem Attribute.isNamed_iff {a : Attribute} {name : String} :
    a.isNamed name = true ↔ a.key = Text.lowerAscii name :=
  Text.sameIgnoringCase_iff_lowerAscii

/-- Of names that are the same but for case, the one that comes first. -/
def distinctNames (names : List String) : List String :=
  names.eraseDupsBy Text.sameIgnoringCase

/-- One more name counts if it is not the same as one that does. -/
theorem distinctNames_append_singleton (names : List String) (name : String) :
    distinctNames (names ++ [name]) =
      if (distinctNames names).any (Text.sameIgnoringCase name) then distinctNames names
      else distinctNames names ++ [name] := by
  have hloop : ∀ seen : List String,
      List.eraseDupsBy.loop Text.sameIgnoringCase (names ++ [name]) seen =
        let kept := List.eraseDupsBy.loop Text.sameIgnoringCase names seen
        if kept.any (Text.sameIgnoringCase name) then kept else kept ++ [name] := by
    induction names with
    | nil =>
      intro seen
      simp only [List.nil_append, List.eraseDupsBy.loop, List.any_reverse]
      cases seen.any (Text.sameIgnoringCase name) <;> simp
    | cons n rest ih =>
      intro seen
      rw [List.cons_append, List.eraseDupsBy.loop, List.eraseDupsBy.loop]
      cases seen.any (Text.sameIgnoringCase n) with
      | true => exact ih seen
      | false => exact ih (n :: seen)
  exact hloop []

namespace AttributeSet

/-! ## Sets of distinct names -/

/-- No two attributes go by the same name. -/
def AreDistinct (as : List Attribute) : Prop :=
  as.Pairwise fun a b => a.isNamed b.name = false

theorem areDistinct_iff {as : List Attribute} : AreDistinct as ↔ (as.map Attribute.key).Nodup := by
  rw [List.Nodup, List.pairwise_map, AreDistinct]
  have hne : ∀ {a b : Attribute}, a.isNamed b.name = false ↔ a.key ≠ b.key := by
    intro a b
    rw [Bool.eq_false_iff]
    exact not_congr Attribute.isNamed_iff
  exact ⟨fun h => h.imp hne.mp, fun h => h.imp hne.mpr⟩

/-- Among attributes of distinct names each is the one that is found under its name. -/
theorem find?_of_mem_distinct {as : List Attribute} (h : AreDistinct as) {a : Attribute}
    (ha : a ∈ as) : as.find? (fun b => b.isNamed a.name) = some a := by
  obtain ⟨front, back, rfl⟩ := List.append_of_mem ha
  have hfront : ∀ b ∈ front, ¬ b.isNamed a.name = true := by
    intro b hb
    rw [(List.pairwise_append.mp h).2.2 b hb a (List.mem_cons_self ..)]
    exact Bool.false_ne_true
  have hself : a.isNamed a.name = true := Text.sameIgnoringCase_refl a.name
  rw [List.find?_append, List.find?_eq_none.mpr hfront, Option.none_or, List.find?_cons, hself]

theorem place_of_forall {a : Attribute} {as : List Attribute}
    (h : ∀ b ∈ as, b.isNamed a.name = false) : place a as = as ++ [a] := by
  induction as with
  | nil => rfl
  | cons b rest ih =>
    obtain ⟨hb, hrest⟩ := List.forall_mem_cons.mp h
    rw [place, hb, if_neg Bool.false_ne_true, ih hrest, List.cons_append]

theorem foldl_insert_of_distinct (as bs : List Attribute) (h : AreDistinct (as ++ bs)) :
    bs.foldl insert ⟨as⟩ = ⟨as ++ bs⟩ := by
  induction bs generalizing as with
  | nil => rw [List.append_nil, List.foldl_nil]
  | cons b rest ih =>
    have hb : ∀ a ∈ as, a.isNamed b.name = false := fun a ha =>
      (List.pairwise_append.mp h).2.2 a ha b (List.mem_cons_self ..)
    have hnext : insert ⟨as⟩ b = ⟨as ++ [b]⟩ := by rw [insert, place_of_forall hb]
    rw [List.foldl_cons, hnext, ih (as ++ [b]) (by simpa using h), List.append_assoc]
    rfl

/-- Attributes of distinct names are kept as they come. -/
theorem ofList_of_distinct {as : List Attribute} (h : AreDistinct as) : ofList as = ⟨as⟩ :=
  foldl_insert_of_distinct [] as h

/-! ## Names in order -/

/-- A name that is there stays where it is, and a new one comes in at the end. -/
theorem map_key_place (a : Attribute) (as : List Attribute) :
    (place a as).map Attribute.key =
      if a.key ∈ as.map Attribute.key then as.map Attribute.key
      else as.map Attribute.key ++ [a.key] := by
  induction as with
  | nil => rfl
  | cons b rest ih =>
    rw [place]
    split
    · next hb =>
      have hkey : b.key = a.key := Attribute.isNamed_iff.mp hb
      simp [hkey]
    · next hb =>
      have hkey : a.key ≠ b.key := fun h => hb (Attribute.isNamed_iff.mpr h.symm)
      rw [List.map_cons, ih, List.map_cons]
      by_cases hrest : a.key ∈ rest.map Attribute.key
      · rw [if_pos hrest, if_pos (List.mem_cons_of_mem _ hrest)]
      · rw [if_neg hrest, if_neg (List.not_mem_cons_of_ne_of_not_mem hkey hrest), List.cons_append]

theorem map_lowerAscii_distinctNames (names : List String) (name : String) :
    (distinctNames (names ++ [name])).map Text.lowerAscii =
      if Text.lowerAscii name ∈ (distinctNames names).map Text.lowerAscii then
        (distinctNames names).map Text.lowerAscii
      else (distinctNames names).map Text.lowerAscii ++ [Text.lowerAscii name] := by
  have hknown : (distinctNames names).any (Text.sameIgnoringCase name) = true ↔
      Text.lowerAscii name ∈ (distinctNames names).map Text.lowerAscii := by
    rw [List.any_eq_true, List.mem_map]
    refine exists_congr fun n => and_congr_right fun _ => ?_
    rw [Text.sameIgnoringCase_iff_lowerAscii]
    exact eq_comm
  rw [distinctNames_append_singleton]
  by_cases h : (distinctNames names).any (Text.sameIgnoringCase name) = true
  · rw [if_pos h, if_pos (hknown.mp h)]
  · rw [if_neg h, if_neg (mt hknown.mpr h), List.map_append, List.map_singleton]

/-! ## One insertion after the other -/

/-- The attribute that was inserted last under a name. -/
def latest? (history : List Attribute) (name : String) : Option Attribute :=
  (history.filter fun a => a.isNamed name).getLast?

theorem latest?_append_singleton (history : List Attribute) (a : Attribute) (name : String) :
    latest? (history ++ [a]) name = if a.isNamed name then some a else latest? history name := by
  rw [latest?, List.filter_append, List.filter_cons]
  cases a.isNamed name <;> simp [latest?]

theorem isSome_latest?_iff {history : List Attribute} {name : String} :
    (latest? history name).isSome = true ↔ ∃ a ∈ history, a.isNamed name = true := by
  rw [latest?, List.getLast?_isSome, ne_eq, List.filter_eq_nil_iff]
  simp

/-- The set holds of its history the last attribute under each name, and the names in the order in
which they first came in. -/
structure Keeps (s : AttributeSet) (history : List Attribute) : Prop where
  distinct : AreDistinct s.entries
  order : s.entries.map Attribute.key =
    (distinctNames (history.map Attribute.name)).map Text.lowerAscii
  latest : ∀ name, s.entry? name = latest? history name

theorem keeps_empty : empty.Keeps [] :=
  ⟨.nil, rfl, fun _ => rfl⟩

/-- A set that holds this of its history does so after one more insertion. -/
theorem Keeps.insert {s : AttributeSet} {history : List Attribute} (h : s.Keeps history)
    (a : Attribute) : (s.insert a).Keeps (history ++ [a]) := by
  constructor
  · have hnodup := areDistinct_iff.mp h.distinct
    rw [areDistinct_iff, AttributeSet.insert, map_key_place]
    split
    · exact hnodup
    · next hnew =>
      refine List.nodup_append.mpr ⟨hnodup, List.pairwise_singleton _ _, ?_⟩
      intro key hkey other hother heq
      rw [List.mem_singleton.mp hother] at heq
      exact hnew (heq ▸ hkey)
  · rw [AttributeSet.insert, map_key_place, h.order, List.map_append, List.map_singleton,
      map_lowerAscii_distinctNames]
    rfl
  · intro name
    rw [entry?_insert, latest?_append_singleton, h.latest name]

theorem Keeps.foldl_insert {s : AttributeSet} {history : List Attribute} (h : s.Keeps history)
    (as : List Attribute) : (as.foldl AttributeSet.insert s).Keeps (history ++ as) := by
  induction as generalizing s history with
  | nil => rwa [List.append_nil]
  | cons a rest ih =>
    have hrest := ih (h.insert a)
    rwa [List.append_assoc] at hrest

theorem keeps_ofList (history : List Attribute) : (ofList history).Keeps history :=
  keeps_empty.foldl_insert history

/-- Names that differ in more than case stay different in lower case. -/
theorem nodup_distinctNames (names : List String) :
    ((distinctNames names).map Text.lowerAscii).Nodup := by
  have hkeeps := keeps_ofList (names.map fun name => ⟨name, []⟩)
  have hnames : (names.map fun name => (⟨name, []⟩ : Attribute)).map Attribute.name = names := by
    rw [List.map_map]
    exact List.map_id names
  rw [← hnames, ← hkeeps.order]
  exact areDistinct_iff.mp hkeeps.distinct

/-- The attributes are the last ones under the names, in the order of the names. -/
theorem Keeps.map_some_entries {s : AttributeSet} {history : List Attribute} (h : s.Keeps history) :
    s.entries.map some = (distinctNames (history.map Attribute.name)).map (latest? history) := by
  -- What is found under a name only depends on its lower case.
  obtain ⟨found, hfound⟩ : ∃ found : String → Option Attribute,
      ∀ name, s.entry? name = found (Text.lowerAscii name) := by
    refine ⟨fun key => s.entries.find? fun a => a.key == key, fun name => ?_⟩
    unfold entry?
    congr 1
    funext a
    rw [Bool.eq_iff_iff, beq_iff_eq]
    exact Attribute.isNamed_iff
  calc s.entries.map some
      = s.entries.map fun a => s.entry? a.name :=
        List.map_congr_left fun a ha => (find?_of_mem_distinct h.distinct ha).symm
    _ = (s.entries.map Attribute.key).map found := by
        rw [List.map_map]
        exact List.map_congr_left fun a _ => hfound a.name
    _ = ((distinctNames (history.map Attribute.name)).map Text.lowerAscii).map found := by
        rw [h.order]
    _ = (distinctNames (history.map Attribute.name)).map (latest? history) := by
        rw [List.map_map]
        exact List.map_congr_left fun name _ => (hfound name).symm.trans (h.latest name)

/-- A set is what was inserted into the empty one. No two of its attributes go by the same name; its
attributes are those that were inserted last under each name, in the order in which the names first
came in; and under a name it says what was inserted last, or nothing if that has no values. -/
theorem insertions_are_kept (history : List Attribute) :
    AreDistinct (ofList history).entries ∧
    (ofList history).entries.map some =
      (distinctNames (history.map Attribute.name)).map (latest? history) ∧
    ∀ name,
      ((ofList history).contains name = true ↔ ∃ a ∈ history, a.isNamed name = true) ∧
      (ofList history).find? name =
        (latest? history name).filter (fun a => !a.values.isEmpty) ∧
      (ofList history).Says name ((latest? history name).elim [] Attribute.values) := by
  have hkeeps := keeps_ofList history
  refine ⟨hkeeps.distinct, hkeeps.map_some_entries, fun name => ⟨?_, ?_, ?_⟩⟩
  · rw [contains_eq_isSome, hkeeps.latest, isSome_latest?_iff]
  · rw [find?, hkeeps.latest]
  · rw [← hkeeps.latest]
    exact says_entry? _ name

example : (ofList [⟨"shell", [.text "/bin/sh"]⟩, ⟨"groups", [.text "ops"]⟩,
    ⟨"Shell", [.text "/bin/bash"]⟩]).entries =
      [⟨"Shell", [.text "/bin/bash"]⟩, ⟨"groups", [.text "ops"]⟩] := by decide

end AttributeSet

end HostAccounts
