import HostAccounts.Diagnostics.Catalogue
import HostAccounts.Proofs.Diagnostics.Signature
import HostAccounts.Proofs.Text.Lines

/-!
# What a verdict means

A verdict rests on the lines of the output that no ignored signature fits. It is that the target is
missing if one of them bears a sign of that; otherwise that the command failed if one bears a sign
of failure; otherwise only a text that has to be there, and is not, stands against success. The
signature in the verdict is the first of the table that fits the earliest line with a sign. Main
statements: `classify_eq_iff`, `classify_eq_success_iff`, `classify_of_lines_subset`,
`classify_means`.
-/

set_option autoImplicit false

namespace HostAccounts.Diagnostics

namespace Diagnostic

variable {d : Diagnostic} {signatures : List String} {output line signature : String}

/-! ## Signs -/

/-- The line is none of those that are passed over. -/
def Counts (d : Diagnostic) (line : String) : Prop :=
  ∀ s ∈ d.ignore, ¬ Fits s line

instance (d : Diagnostic) (line : String) : Decidable (d.Counts line) :=
  inferInstanceAs (Decidable (∀ s ∈ d.ignore, ¬ Fits s line))

/-- The line counts, and one of the signatures fits it. -/
def Bears (d : Diagnostic) (signatures : List String) (line : String) : Prop :=
  d.Counts line ∧ ∃ s ∈ signatures, Fits s line

instance (d : Diagnostic) (signatures : List String) (line : String) :
    Decidable (d.Bears signatures line) :=
  inferInstanceAs (Decidable (_ ∧ ∃ s ∈ signatures, Fits s line))

/-- A line of the output bears one of the signatures. -/
def Shows (d : Diagnostic) (signatures : List String) (output : String) : Prop :=
  ∃ l ∈ Text.lines output, d.Bears signatures l

/-- The signature is the first that fits the earliest line of the output that bears one. -/
def IsReported (d : Diagnostic) (signatures : List String) (output signature : String) : Prop :=
  ∃ before line after, Text.lines output = before ++ line :: after ∧
    (∀ l ∈ before, ¬ d.Bears signatures l) ∧ d.Counts line ∧ IsFirstFit signatures line signature

/-- What the diagnostic takes an output to say. -/
inductive Says (d : Diagnostic) (output : String) : Verdict → Prop
  | notFound {signature : String} (h : d.IsReported d.notFound output signature) :
    Says d output (.notFound signature)
  | failed {signature : String} (hthere : ¬ d.Shows d.notFound output)
    (h : d.IsReported d.failure output signature) : Says d output (.failed signature)
  | missingConfirmation {marker : String} (hthere : ¬ d.Shows d.notFound output)
    (hquiet : ¬ d.Shows d.failure output) (hmarker : d.confirmation = some marker)
    (h : ¬ marker.toList <:+: output.toList) : Says d output (.missingConfirmation marker)
  | success (hthere : ¬ d.Shows d.notFound output) (hquiet : ¬ d.Shows d.failure output)
    (h : ∀ marker, d.confirmation = some marker → marker.toList <:+: output.toList) :
    Says d output .success

/-! ## Signs that are found -/

/-- The signature that is found in a line, if it counts. -/
def sign? (d : Diagnostic) (signatures : List String) (line : String) : Option String :=
  if (firstMatch? (Text.lower line) d.ignore).isNone then firstMatch? (Text.lower line) signatures
  else none

theorem counts_iff :
    (firstMatch? (Text.lower line) d.ignore).isNone = true ↔ d.Counts line := by
  rw [Option.isNone_iff_eq_none, firstMatch?_eq_none_iff, Counts]

theorem sign?_eq_some_iff :
    d.sign? signatures line = some signature ↔
      d.Counts line ∧ IsFirstFit signatures line signature := by
  rw [sign?, ← counts_iff, ← firstMatch?_eq_some_iff]
  split <;> simp_all

theorem sign?_eq_none_iff : d.sign? signatures line = none ↔ ¬ d.Bears signatures line := by
  rw [sign?, Bears, ← counts_iff]
  split
  · next hcounts =>
    rw [firstMatch?_eq_none_iff]
    simp [hcounts]
  · next hcounts => simp [hcounts]

/-- Lines that do not count are as good as lines without a sign. -/
theorem findSome?_relevantLines (signatures : List String) (output : String) :
    ((d.relevantLines output).findSome? fun l => firstMatch? l signatures) =
      (Text.lines output).findSome? (d.sign? signatures) := by
  rw [relevantLines]
  induction Text.lines output with
  | nil => rfl
  | cons l ls ih =>
    rw [List.map_cons, List.filter_cons, List.findSome?_cons, ← ih, sign?]
    split
    · rw [List.findSome?_cons]
    · rfl

theorem findSome?_sign?_eq_some_iff :
    (Text.lines output).findSome? (d.sign? signatures) = some signature ↔
      d.IsReported signatures output signature := by
  simp only [List.findSome?_eq_some_iff, sign?_eq_none_iff, sign?_eq_some_iff, IsReported]
  constructor
  · rintro ⟨before, line, after, hlines, hline, hbefore⟩
    exact ⟨before, line, after, hlines, hbefore, hline⟩
  · rintro ⟨before, line, after, hlines, hbefore, hline⟩
    exact ⟨before, line, after, hlines, hline, hbefore⟩

theorem findSome?_sign?_eq_none_iff :
    (Text.lines output).findSome? (d.sign? signatures) = none ↔ ¬ d.Shows signatures output := by
  simp [List.findSome?_eq_none_iff, sign?_eq_none_iff, Shows]

theorem exists_isReported_iff :
    (∃ signature, d.IsReported signatures output signature) ↔ d.Shows signatures output := by
  simp only [← findSome?_sign?_eq_some_iff]
  rw [← Option.isSome_iff_exists, ← not_iff_not, Option.not_isSome_iff_eq_none,
    findSome?_sign?_eq_none_iff]

/-! ## Verdicts -/

theorem Says.classify_eq {v : Verdict} (h : d.Says output v) : d.classify output = v := by
  unfold classify
  simp only [findSome?_relevantLines]
  cases h with
  | notFound h => rw [findSome?_sign?_eq_some_iff.mpr h]
  | failed hthere h =>
    rw [findSome?_sign?_eq_none_iff.mpr hthere, findSome?_sign?_eq_some_iff.mpr h]
  | @missingConfirmation marker hthere hquiet hmarker h =>
    have habsent : ¬ Text.contains output marker = true := mt Text.contains_iff.mp h
    rw [findSome?_sign?_eq_none_iff.mpr hthere, findSome?_sign?_eq_none_iff.mpr hquiet, hmarker]
    exact if_neg habsent
  | success hthere hquiet h =>
    rw [findSome?_sign?_eq_none_iff.mpr hthere, findSome?_sign?_eq_none_iff.mpr hquiet]
    cases hmarker : d.confirmation with
    | none => rfl
    | some marker => exact if_pos (Text.contains_iff.mpr (h marker hmarker))

theorem says_classify (d : Diagnostic) (output : String) : d.Says output (d.classify output) := by
  have hsays : ∃ v, d.Says output v := by
    by_cases hthere : d.Shows d.notFound output
    · obtain ⟨signature, h⟩ := exists_isReported_iff.mpr hthere
      exact ⟨_, .notFound h⟩
    by_cases hquiet : d.Shows d.failure output
    · obtain ⟨signature, h⟩ := exists_isReported_iff.mpr hquiet
      exact ⟨_, .failed hthere h⟩
    by_cases hmarker : ∀ marker, d.confirmation = some marker → marker.toList <:+: output.toList
    · exact ⟨_, .success hthere hquiet hmarker⟩
    · push Not at hmarker
      obtain ⟨marker, hmarker, habsent⟩ := hmarker
      exact ⟨_, .missingConfirmation hthere hquiet hmarker habsent⟩
  obtain ⟨v, hv⟩ := hsays
  exact hv.classify_eq.symm ▸ hv

theorem classify_eq_iff {v : Verdict} : d.classify output = v ↔ d.Says output v :=
  ⟨fun h => h ▸ says_classify d output, Says.classify_eq⟩

/-! ## The kinds of verdicts -/

theorem exists_classify_eq_notFound_iff :
    (∃ s, d.classify output = .notFound s) ↔ d.Shows d.notFound output := by
  simp only [classify_eq_iff]
  constructor
  · rintro ⟨s, h⟩
    cases h with
    | notFound h => exact exists_isReported_iff.mp ⟨s, h⟩
  · intro h
    obtain ⟨s, hs⟩ := exists_isReported_iff.mpr h
    exact ⟨s, .notFound hs⟩

theorem exists_classify_eq_failed_iff :
    (∃ s, d.classify output = .failed s) ↔
      ¬ d.Shows d.notFound output ∧ d.Shows d.failure output := by
  simp only [classify_eq_iff]
  constructor
  · rintro ⟨s, h⟩
    cases h with
    | failed hthere h => exact ⟨hthere, exists_isReported_iff.mp ⟨s, h⟩⟩
  · rintro ⟨hthere, h⟩
    obtain ⟨s, hs⟩ := exists_isReported_iff.mpr h
    exact ⟨s, .failed hthere hs⟩

theorem classify_eq_missingConfirmation_iff {marker : String} :
    d.classify output = .missingConfirmation marker ↔
      ¬ d.Shows d.notFound output ∧ ¬ d.Shows d.failure output ∧
        d.confirmation = some marker ∧ ¬ marker.toList <:+: output.toList := by
  rw [classify_eq_iff]
  constructor
  · intro h
    cases h with
    | missingConfirmation hthere hquiet hmarker h => exact ⟨hthere, hquiet, hmarker, h⟩
  · rintro ⟨hthere, hquiet, hmarker, h⟩
    exact .missingConfirmation hthere hquiet hmarker h

theorem classify_eq_success_iff :
    d.classify output = .success ↔
      (¬ d.Shows d.notFound output ∧ ¬ d.Shows d.failure output) ∧
        ∀ marker, d.confirmation = some marker → Text.contains output marker = true := by
  simp only [classify_eq_iff, Text.contains_iff]
  constructor
  · intro h
    cases h with
    | success hthere hquiet h => exact ⟨⟨hthere, hquiet⟩, h⟩
  · rintro ⟨⟨hthere, hquiet⟩, h⟩
    exact .success hthere hquiet h

/-! ## More output -/

theorem Shows.mono {other : String} (h : d.Shows signatures output)
    (hlines : Text.lines output ⊆ Text.lines other) : d.Shows signatures other := by
  obtain ⟨l, hl, hbears⟩ := h
  exact ⟨l, hlines hl, hbears⟩

/-- Some of the lines of a success are a success again, if the text is among them that has to be
there. -/
theorem classify_of_lines_subset {whole part : String} (h : d.classify whole = .success)
    (hlines : ∀ l ∈ Text.lines part, l ∈ Text.lines whole)
    (hmarker : ∀ marker, d.confirmation = some marker → Text.contains part marker = true) :
    d.classify part = .success := by
  obtain ⟨⟨hthere, hquiet⟩, -⟩ := classify_eq_success_iff.mp h
  exact classify_eq_success_iff.mpr
    ⟨⟨fun hpart => hthere (hpart.mono hlines), fun hpart => hquiet (hpart.mono hlines)⟩, hmarker⟩

/-- What is printed behind whole lines does not change the earliest sign in them. -/
theorem IsReported.append (h : d.IsReported signatures output signature)
    (hclosed : Text.IsClosed output) (more : String) :
    d.IsReported signatures (output ++ more) signature := by
  obtain ⟨before, line, after, hlines, hline⟩ := h
  refine ⟨before, line, after ++ Text.lines more, ?_, hline⟩
  rw [Text.lines_append_of_isClosed hclosed, hlines, List.append_assoc, List.cons_append]

/-- A sign of failure outlasts whatever is printed around it: only a missing target goes before
it. -/
theorem exists_classify_of_shows_failure (h : d.Shows d.failure output) :
    ∃ s, d.classify output = .notFound s ∨ d.classify output = .failed s := by
  by_cases hthere : d.Shows d.notFound output
  · obtain ⟨s, hs⟩ := exists_classify_eq_notFound_iff.mpr hthere
    exact ⟨s, .inl hs⟩
  · obtain ⟨s, hs⟩ := exists_classify_eq_failed_iff.mpr ⟨hthere, h⟩
    exact ⟨s, .inr hs⟩

/-- A verdict is what the output says, and each kind of verdict has its one condition. A line with a
sign decides wherever it stands and whatever else is printed; behind whole lines more output changes
neither the finding that the target is missing, nor a failure into anything but that finding. -/
theorem classify_means (d : Diagnostic) (output : String) :
    (∀ v, d.classify output = v ↔ d.Says output v) ∧
      ((∃ s, d.classify output = .notFound s) ↔ d.Shows d.notFound output) ∧
      ((∃ s, d.classify output = .failed s) ↔
        ¬ d.Shows d.notFound output ∧ d.Shows d.failure output) ∧
      (∀ marker, d.classify output = .missingConfirmation marker ↔
        ¬ d.Shows d.notFound output ∧ ¬ d.Shows d.failure output ∧
          d.confirmation = some marker ∧ ¬ marker.toList <:+: output.toList) ∧
      (∀ l ∈ Text.lines output,
        (d.Bears d.notFound l → ∃ s, d.classify output = .notFound s) ∧
          (d.Bears d.failure l →
            ∃ s, d.classify output = .notFound s ∨ d.classify output = .failed s)) ∧
      (Text.IsClosed output → ∀ more,
        (∀ s, d.classify output = .notFound s → d.classify (output ++ more) = .notFound s) ∧
          ∀ s, d.classify output = .failed s →
            d.classify (output ++ more) = .failed s ∨
              ∃ t, d.classify (output ++ more) = .notFound t) := by
  refine ⟨fun v => classify_eq_iff, exists_classify_eq_notFound_iff, exists_classify_eq_failed_iff,
    fun marker => classify_eq_missingConfirmation_iff, fun l hl => ⟨fun h => ?_, fun h => ?_⟩,
    fun hclosed more => ⟨fun s hs => ?_, fun s hs => ?_⟩⟩
  · exact exists_classify_eq_notFound_iff.mpr ⟨l, hl, h⟩
  · exact exists_classify_of_shows_failure ⟨l, hl, h⟩
  · cases classify_eq_iff.mp hs with
    | notFound h => exact classify_eq_iff.mpr (.notFound (h.append hclosed more))
  · cases classify_eq_iff.mp hs with
    | failed _ h =>
      by_cases hthere : d.Shows d.notFound (output ++ more)
      · exact .inr (exists_classify_eq_notFound_iff.mpr hthere)
      · exact .inl (classify_eq_iff.mpr (.failed hthere (h.append hclosed more)))

/-- A user that is missing is reported, behind a warning that is passed over and in front of
everything else. -/
theorem classify_means_ghost :
    Text.IsClosed "userdel: warning: busy\nuserdel: user 'ghost' does not exist\n" ∧
      (catalogue .userdel).classify
          ("userdel: warning: busy\nuserdel: user 'ghost' does not exist\n" ++ "rm: failed") =
        .notFound "userdel: user '*' does not exist" := by
  have hclosed :
      Text.IsClosed "userdel: warning: busy\nuserdel: user 'ghost' does not exist\n" := by
    decide +kernel
  refine ⟨hclosed, ?_⟩
  exact ((classify_means (catalogue .userdel) _).2.2.2.2.2 hclosed "rm: failed").1 _
    (by decide +kernel)

end Diagnostic

end HostAccounts.Diagnostics
