import HostAccounts.Attribute

/-!
# What a set of attributes says

An attribute is found under its name once it was inserted, and what goes by other names stays.
Whatever is said under a name, the attribute was supplied; and under a name that no attribute goes
by nothing is said. What a set does not say is told by its values. Main statements: `entry?_insert`,
`says_entry?`, `isSilentOn_of_entry?`, `mem_texts_iff`.
-/

set_option autoImplicit false

namespace HostAccounts.AttributeSet

variable {a : AttributeSet} {name : String}

/-! ## Attributes that are inserted -/

/-- An attribute that is inserted is found under each of its names, and all others as before. -/
theorem entry?_insert (s : AttributeSet) (new : Attribute) (name : String) :
    entry? (s.insert new) name = if new.isNamed name then some new else s.entry? name := by
  have hplace : ∀ as : List Attribute, (place new as).find? (fun b => b.isNamed name) =
      if new.isNamed name then some new else as.find? fun b => b.isNamed name := by
    intro as
    induction as with
    | nil => cases h : new.isNamed name <;> simp [place, h]
    | cons b rest ih =>
      rw [place]
      split
      · next hb =>
        -- What is replaced goes by the same names.
        have hsame : b.isNamed name = new.isNamed name := by
          rw [Bool.eq_iff_iff]
          exact ⟨Text.sameIgnoringCase_trans (Text.sameIgnoringCase_symm hb),
            Text.sameIgnoringCase_trans hb⟩
        rw [List.find?_cons, List.find?_cons, hsame]
        cases new.isNamed name <;> rfl
      · next hb =>
        rw [List.find?_cons, List.find?_cons, ih]
        cases hname : b.isNamed name with
        | false => rfl
        | true =>
          have hnew : new.isNamed name = false := by
            rw [Bool.eq_false_iff]
            intro hnew
            exact hb (Text.sameIgnoringCase_trans hname (Text.sameIgnoringCase_symm hnew))
          rw [hnew]
          rfl
  exact hplace s.entries

theorem entry?_insert_self (s : AttributeSet) (name : String) (values : List Value) :
    entry? (s.insert ⟨name, values⟩) name = some ⟨name, values⟩ := by
  have hself : Attribute.isNamed ⟨name, values⟩ name = true := Text.sameIgnoringCase_refl name
  rw [entry?_insert, if_pos hself]

/-- Attributes of other names stay. -/
theorem entry?_insert_of_ne (s : AttributeSet) {name other : String} (values : List Value)
    (h : Text.sameIgnoringCase name other = false) :
    entry? (s.insert ⟨name, values⟩) other = s.entry? other := by
  have hother : Attribute.isNamed ⟨name, values⟩ other = false := h
  rw [entry?_insert, hother, if_neg Bool.false_ne_true]

/-! ## Attributes that say something -/

theorem contains_of_texts_ne_nil (h : a.texts name ≠ []) : a.contains name = true := by
  cases hentry : a.entry? name with
  | none => simp [texts, find?, hentry] at h
  | some entry =>
    have hnamed := List.find?_some (p := fun b : Attribute => b.isNamed name) hentry
    exact List.any_eq_true.mpr ⟨entry, List.mem_of_find?_eq_some hentry, hnamed⟩

theorem isPresent_of_text?_eq_some {value : String} (h : a.text? name = some value) :
    a.isPresent name = true := by
  obtain ⟨entry, hentry, -⟩ := Option.bind_eq_some_iff.mp h
  exact Option.isSome_iff_exists.mpr ⟨entry, hentry⟩

/-- The first text that is said under a name is one of those that are. -/
theorem mem_texts_of_text?_eq_some {value : String} (h : a.text? name = some value) :
    value ∈ a.texts name := by
  obtain ⟨entry, hentry, hvalue⟩ := Option.bind_eq_some_iff.mp h
  obtain ⟨hfirst, hplain⟩ := Option.filter_eq_some_iff.mp hvalue
  obtain ⟨v, hv, htext⟩ := List.exists_of_findSome?_eq_some hfirst
  rw [texts, hentry]
  exact List.mem_filter.mpr ⟨List.mem_filterMap.mpr ⟨v, hv, htext⟩, hplain⟩

/-- The values are all that the set says under the name. -/
structure Says (a : AttributeSet) (name : String) (values : List Value) : Prop where
  isPresent : a.isPresent name = !values.isEmpty
  text : a.text? name = (values.findSome? Value.text?).filter fun v => !Text.isBlankText v
  texts : a.texts name = (values.filterMap Value.text?).filter fun v => !Text.isBlankText v
  flag : a.flag? name = values.head?.bind Value.flag?
  secret : a.secret? name = values.findSome? Value.secret?

/-- An attribute without values says as much as none. -/
theorem says_nil_of_find? (h : a.find? name = none) : a.Says name [] := by
  constructor
  · rw [isPresent, h]
    rfl
  · rw [text?, h]
    rfl
  · rw [texts, h]
    rfl
  · rw [flag?, h]
    rfl
  · rw [secret?, h]
    rfl

theorem says_of_find? {entry : Attribute} (h : a.find? name = some entry) :
    a.Says name entry.values := by
  have hvalues : entry.values.isEmpty = false := by
    have hkept := (Option.filter_eq_some_iff.mp h).2
    simpa using hkept
  constructor
  · rw [isPresent, h, hvalues]
    rfl
  · rw [text?, h]
    rfl
  · rw [texts, h]
  · rw [flag?, h]
    rfl
  · rw [secret?, h]
    rfl

/-- Whatever is said under a name are the values of the attribute that goes by it. -/
theorem says_entry? (a : AttributeSet) (name : String) :
    a.Says name ((a.entry? name).elim [] Attribute.values) := by
  cases hentry : a.entry? name with
  | none =>
    have hfind : a.find? name = none := by rw [find?, hentry, Option.filter_none]
    exact says_nil_of_find? hfind
  | some entry =>
    rw [Option.elim_some]
    cases hvalues : entry.values.isEmpty with
    | true =>
      have hfind : a.find? name = none := by
        rw [find?, hentry, Option.filter_some, hvalues]
        rfl
      rw [List.isEmpty_iff.mp hvalues]
      exact says_nil_of_find? hfind
    | false =>
      have hfind : a.find? name = some entry := by
        rw [find?, hentry, Option.filter_some, hvalues]
        rfl
      exact says_of_find? hfind

/-- The values that go by the name; none if no attribute does. -/
def valuesOf (a : AttributeSet) (name : String) : List Value :=
  (a.entry? name).elim [] Attribute.values

theorem says_valuesOf (a : AttributeSet) (name : String) : a.Says name (a.valuesOf name) :=
  says_entry? a name

theorem contains_eq_isSome (a : AttributeSet) (name : String) :
    a.contains name = (a.entry? name).isSome := by
  rw [contains, entry?, List.isSome_find?]

/-- Nothing is said under the name. -/
structure IsSilentOn (a : AttributeSet) (name : String) : Prop where
  contains : a.contains name = false
  isPresent : a.isPresent name = false
  text : a.text? name = none
  flag : a.flag? name = none

theorem isSilentOn_of_entry? (h : a.entry? name = none) : a.IsSilentOn name := by
  have hvalues := a.says_entry? name
  rw [h] at hvalues
  refine ⟨?_, hvalues.isPresent, hvalues.text, hvalues.flag⟩
  rw [contains_eq_isSome, h]
  rfl

/-! ## What is wanting -/

/-- No text of weight is given under the name: the first one, if there is one, is blank. -/
def LacksText (a : AttributeSet) (name : String) : Prop :=
  ∀ text, (a.valuesOf name).findSome? Value.text? = some text → Text.isBlankText text = true

/-- Every text that is given under the name is blank. -/
def LacksTexts (a : AttributeSet) (name : String) : Prop :=
  ∀ text, .text text ∈ a.valuesOf name → Text.isBlankText text = true

/-- The first value under the name, if there is one, is not read as a flag. -/
def LacksFlag (a : AttributeSet) (name : String) : Prop :=
  ∀ value, (a.valuesOf name).head? = some value → value.flag? = none

theorem text?_eq_none_iff : a.text? name = none ↔ a.LacksText name := by
  rw [(a.says_valuesOf name).text, Option.filter_eq_none_iff]
  exact forall₂_congr fun _ _ => by simp

theorem mem_texts_iff {text : String} : text ∈ a.texts name ↔
    Text.isBlankText text = false ∧ .text text ∈ a.valuesOf name := by
  have htext : ∀ value : Value, value.text? = some text ↔ value = .text text := by
    intro value
    cases value <;> simp [Value.text?]
  rw [(a.says_valuesOf name).texts, List.mem_filter, List.mem_filterMap]
  simp only [htext, exists_eq_right, Bool.not_eq_true', and_comm]

theorem texts_eq_nil_iff : a.texts name = [] ↔ a.LacksTexts name := by
  rw [List.eq_nil_iff_forall_not_mem]
  refine forall_congr' fun text => ?_
  rw [mem_texts_iff, not_and', Bool.not_eq_false]

theorem flag?_eq_none_iff : a.flag? name = none ↔ a.LacksFlag name := by
  rw [(a.says_valuesOf name).flag, Option.bind_eq_none_iff]
  rfl

theorem isPresent_eq_false_iff : a.isPresent name = false ↔ a.valuesOf name = [] := by
  rw [(a.says_valuesOf name).isPresent, Bool.not_eq_false', List.isEmpty_iff]

end HostAccounts.AttributeSet
