import HostAccounts.Proofs.Diagnostics.Signature
import HostAccounts.Provision.Search
import Mathlib.Algebra.Ring.Parity
import Mathlib.Logic.Function.Iterate

/-!
# What filters ask for

Every filter is a number of negations around a comparison, a conjunction or a disjunction. Only a
comparison can be searched for, and what each row is then compared with lets a value pass exactly if
the filter does. The negations count by twos, so one object is looked up for an even number of them.
Main statements: `Filter.exists_iterate`, `Filter.accepts_iff`, `Filter.operands_keep_meaning`.
-/

set_option autoImplicit false

namespace HostAccounts

/-! ## Comparisons and filters as they read -/

/-- The field is the text asked for, or holds it in the place that the comparison is about. -/
def Comparison.Relates (k : Comparison) (field asked : String) : Prop :=
  match k with
  | equal => field = asked
  | startsWith => ∃ back, field = asked ++ back
  | endsWith => ∃ front, field = front ++ asked
  | contains => ∃ front back, field = front ++ asked ++ back

theorem Comparison.holds_iff {k : Comparison} {field asked : String} :
    k.holds field asked = true ↔ k.Relates field asked := by
  cases k with
  | equal => exact beq_iff_eq
  | startsWith =>
    rw [holds, List.isPrefixOf_iff_prefix]
    constructor
    · rintro ⟨back, hback⟩
      exact ⟨String.ofList back, by simp [← String.toList_inj, hback]⟩
    · rintro ⟨back, rfl⟩
      exact ⟨back.toList, by simp⟩
  | endsWith =>
    rw [holds, List.isSuffixOf_iff_suffix]
    constructor
    · rintro ⟨front, hfront⟩
      exact ⟨String.ofList front, by simp [← String.toList_inj, hfront]⟩
    · rintro ⟨front, rfl⟩
      exact ⟨front.toList, by simp⟩
  | contains =>
    rw [holds, Text.contains_iff]
    constructor
    · rintro ⟨front, back, hfield⟩
      exact ⟨String.ofList front, String.ofList back, by simp [← String.toList_inj, ← hfield]⟩
    · rintro ⟨front, back, rfl⟩
      exact ⟨front.toList, back.toList, by simp⟩

namespace Filter

/-- The filter lets the value pass, whether or not a search can be made for it. -/
def Admits (value : String) : Filter → Prop
  | compare _ kind asked => kind.Relates value asked
  | not f => ¬ f.Admits value
  | and f g => f.Admits value ∧ g.Admits value
  | or f g => f.Admits value ∨ g.Admits value

/-! ## Negations -/

variable {f g h : Filter} {k : Nat} {o : Operand}

/-- Only how many negations there are counts, and each turns the comparison around. -/
theorem operandUnder_iterate (f : Filter) (negated : Bool) (k : Nat) :
    (Filter.not^[k] f).operandUnder negated = f.operandUnder (Bool.not^[k] negated) := by
  induction k generalizing negated with
  | zero => rfl
  | succ k ih =>
    rw [Function.iterate_succ_apply', operandUnder, ih, ← Function.iterate_succ_apply]

/-- An even number of negations leaves a filter as it is. -/
theorem operandUnder_not_iterate (f : Filter) (negated : Bool) (k : Nat) :
    (Filter.not^[2 * k] f).operandUnder negated = f.operandUnder negated := by
  rw [operandUnder_iterate, Bool.involutive_not.iterate_even (even_two_mul k), id_eq]

theorem iterate_not_false (k : Nat) : Bool.not^[k] false = decide (Odd k) := by
  rcases Nat.even_or_odd k with heven | hodd
  · rw [Bool.involutive_not.iterate_even heven, decide_eq_false (Nat.not_odd_iff_even.mpr heven)]
    rfl
  · rw [Bool.involutive_not.iterate_odd hodd, decide_eq_true hodd]
    rfl

/-- The composite of two filters that is turned down with the defect. -/
def composite : FilterDefect → Filter → Filter → Filter
  | .conjunction => and
  | .disjunction => or

/-- Below its negations every filter is a comparison or a composite. -/
theorem exists_iterate (f : Filter) :
    (∃ k field kind value, f = Filter.not^[k] (compare field kind value)) ∨
      ∃ k defect g h, f = Filter.not^[k] (composite defect g h) := by
  induction f with
  | compare field kind value => exact .inl ⟨0, field, kind, value, rfl⟩
  | not f ih =>
    rcases ih with ⟨k, field, kind, value, rfl⟩ | ⟨k, defect, g, h, rfl⟩
    · exact .inl ⟨k + 1, field, kind, value, (Function.iterate_succ_apply' Filter.not k _).symm⟩
    · exact .inr ⟨k + 1, defect, g, h, (Function.iterate_succ_apply' Filter.not k _).symm⟩
  | and g h => exact .inr ⟨0, .conjunction, g, h, rfl⟩
  | or g h => exact .inr ⟨0, .disjunction, g, h, rfl⟩

/-- What lets a value pass does so for the filter, and for its negation lets the others pass. -/
theorem accepts_iff {negated : Bool} (h : f.operandUnder negated = .ok o) (value : String) :
    o.accepts value = true ↔ (f.Admits value ↔ negated = false) := by
  induction f generalizing negated with
  | compare field kind asked =>
    cases h
    rw [Admits, ← Comparison.holds_iff, Operand.accepts]
    cases negated <;> simp
  | not f ih =>
    rw [ih h, Admits]
    cases negated <;> simp
  | and f g => cases h
  | or f g => cases h

/-! ## Operands -/

theorem operandOf_iterate (g : Filter) (k : Nat) :
    Provision.operandOf (some (Filter.not^[k] g)) =
      ((g.operandUnder (decide (Odd k))).map some).mapError .unsupportedFilter := by
  rw [Provision.operandOf, operand, operandUnder_iterate, iterate_not_false]

theorem operandOf_compare (k : Nat) (field : String) (kind : Comparison) (value : String) :
    Provision.operandOf (some (Filter.not^[k] (compare field kind value))) =
      .ok (some ⟨field, value, kind, decide (Odd k)⟩) := by
  rw [operandOf_iterate]
  rfl

theorem operandOf_composite (k : Nat) (defect : FilterDefect) (g h : Filter) :
    Provision.operandOf (some (Filter.not^[k] (composite defect g h))) =
      .error (.unsupportedFilter defect) := by
  rw [operandOf_iterate]
  cases defect <;> rfl

theorem operandOf_eq_ok_iff : Provision.operandOf (some f) = .ok (some o) ↔
    ∃ k, f = Filter.not^[k] (compare o.field o.kind o.value) ∧ o.negated = decide (Odd k) := by
  constructor
  · intro ho
    rcases f.exists_iterate with ⟨k, field, kind, value, rfl⟩ | ⟨k, defect, g, h, rfl⟩
    · rw [operandOf_compare] at ho
      cases ho
      exact ⟨k, rfl, rfl⟩
    · rw [operandOf_composite] at ho
      cases ho
  · rintro ⟨k, rfl, hnegated⟩
    rw [operandOf_compare, ← hnegated]

theorem operandOf_eq_error_iff {defect : FilterDefect} :
    Provision.operandOf (some f) = .error (.unsupportedFilter defect) ↔
      ∃ k g h, f = Filter.not^[k] (composite defect g h) := by
  constructor
  · intro hf
    rcases f.exists_iterate with ⟨k, field, kind, value, rfl⟩ | ⟨k, found, g, h, rfl⟩
    · rw [operandOf_compare] at hf
      cases hf
    · rw [operandOf_composite] at hf
      cases hf
      exact ⟨k, g, h, rfl⟩
  · rintro ⟨k, g, h, rfl⟩
    exact operandOf_composite k defect g h

theorem accepts_iff_of_operandOf (h : Provision.operandOf (some f) = .ok (some o))
    (value : String) : o.accepts value = true ↔ f.Admits value := by
  obtain ⟨k, rfl, hnegated⟩ := operandOf_eq_ok_iff.mp h
  have hoperand : (Filter.not^[k] (compare o.field o.kind o.value)).operandUnder false = .ok o := by
    rw [operandUnder_iterate, iterate_not_false, ← hnegated]
    rfl
  rw [accepts_iff hoperand, iff_true_right rfl]

end Filter

namespace Operand

theorem isPrimaryKey_iff {o : Operand} :
    o.isPrimaryKey = true ↔ Text.lowerAscii o.field ∈ ["__name__", "__uid__"] := by
  have hlower : ∀ name lowered : String, name.toList.map Char.toLower = lowered.toList →
      (Text.sameIgnoringCase o.field name = true ↔ Text.lowerAscii o.field = lowered) := by
    intro name lowered hname
    rw [Text.sameIgnoringCase_iff, hname, Text.lowerAscii, ← String.toList_inj,
      String.toList_ofList]
  have hname := hlower AttributeName.name "__name__" (by decide)
  have huid := hlower AttributeName.uid "__uid__" (by decide)
  rw [isPrimaryKey, Bool.or_eq_true, hname, huid, List.mem_cons, List.mem_singleton]

theorem isKeyed_iff {o : Operand} :
    o.isKeyed = true ↔
      o.kind = .equal ∧ Text.lowerAscii o.field ∈ ["__name__", "__uid__"] ∧ o.negated = false := by
  rw [isKeyed, Bool.and_eq_true, Bool.and_eq_true, isPrimaryKey_iff, beq_iff_eq, Bool.not_eq_true']
  exact ⟨fun h => ⟨h.1.2, h.1.1, h.2⟩, fun h => ⟨⟨h.2.1, h.1⟩, h.2.2⟩⟩

end Operand

namespace Filter

/-- A filter can be searched for exactly if it is a comparison below negations; of the others the
first composite below the negations is named. What is searched for lets a value pass exactly if the
filter does. It is one object exactly if the comparison is for equality with its name, below an even
number of negations. -/
theorem operands_keep_meaning (f : Filter) :
    ((∃ o, Provision.operandOf (some f) = .ok (some o)) ↔
      ∃ k field kind value, f = Filter.not^[k] (compare field kind value)) ∧
    ((¬ ∃ k field kind value, f = Filter.not^[k] (compare field kind value)) →
      ∃ defect, Provision.operandOf (some f) = .error (.unsupportedFilter defect) ∧
        (defect.message = "AND filters are not supported" ↔
          ∃ k g h, f = Filter.not^[k] (and g h)) ∧
        (defect.message = "OR filters are not supported" ↔
          ∃ k g h, f = Filter.not^[k] (or g h))) ∧
    (∀ o, Provision.operandOf (some f) = .ok (some o) →
      ∀ value, o.accepts value = true ↔ f.Admits value) ∧
    ∀ o k field kind value, Provision.operandOf (some f) = .ok (some o) →
      f = Filter.not^[k] (compare field kind value) →
        (o.isKeyed = true ↔
          kind = .equal ∧ Text.lowerAscii field ∈ ["__name__", "__uid__"] ∧ Even k) := by
  refine ⟨⟨?_, ?_⟩, fun hnot => ?_, fun o ho => accepts_iff_of_operandOf ho, ?_⟩
  · rintro ⟨o, ho⟩
    obtain ⟨k, hf, -⟩ := operandOf_eq_ok_iff.mp ho
    exact ⟨k, o.field, o.kind, o.value, hf⟩
  · rintro ⟨k, field, kind, value, rfl⟩
    exact ⟨_, operandOf_compare k field kind value⟩
  · obtain ⟨k, defect, g, h, hf⟩ := f.exists_iterate.resolve_left hnot
    have herror := operandOf_eq_error_iff.mpr ⟨k, g, h, hf⟩
    have hnamed : ∀ named, defect = named ↔ ∃ k g h, f = Filter.not^[k] (composite named g h) := by
      intro named
      rw [← operandOf_eq_error_iff, herror, Except.error.injEq, Fault.unsupportedFilter.injEq]
    refine ⟨defect, herror, Iff.trans ?_ (hnamed .conjunction), Iff.trans ?_ (hnamed .disjunction)⟩
    · cases defect <;> decide
    · cases defect <;> decide
  · rintro o k field kind value ho rfl
    rw [operandOf_compare] at ho
    cases ho
    rw [Operand.isKeyed_iff, decide_eq_false_iff_not, Nat.not_odd_iff_even]

/-- A name in another case below two negations is looked up; below three it is not, and then lets
every value but the name pass. -/
theorem operands_keep_meaning_uid :
    (∃ o, Provision.operandOf (some (Filter.not^[2] (compare "__Uid__" .equal "svc1"))) =
        .ok (some o) ∧ o.isKeyed = true) ∧
      ∃ o, Provision.operandOf (some (Filter.not^[3] (compare "__Uid__" .equal "svc1"))) =
        .ok (some o) ∧ o.isKeyed = false ∧ o.accepts "svc2" = true := by
  obtain ⟨hfound, -, -, hkeyed⟩ :=
    operands_keep_meaning (Filter.not^[2] (compare "__Uid__" .equal "svc1"))
  obtain ⟨hfound', -, hmeans, hkeyed'⟩ :=
    operands_keep_meaning (Filter.not^[3] (compare "__Uid__" .equal "svc1"))
  obtain ⟨o, ho⟩ := hfound.mpr ⟨2, _, _, _, rfl⟩
  obtain ⟨o', ho'⟩ := hfound'.mpr ⟨3, _, _, _, rfl⟩
  refine ⟨⟨o, ho, (hkeyed o 2 _ _ _ ho rfl).mpr ⟨rfl, by decide, by decide⟩⟩, o', ho', ?_, ?_⟩
  · refine Bool.eq_false_iff.mpr fun h => ?_
    exact absurd ((hkeyed' o' 3 _ _ _ ho' rfl).mp h).2.2 (by decide)
  · rw [hmeans o' ho']
    simp [Admits, Comparison.Relates]

end Filter

end HostAccounts
