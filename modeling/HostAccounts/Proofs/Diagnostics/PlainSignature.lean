import HostAccounts.Proofs.Diagnostics.Verdict

/-!
# Plain signatures

A signature without an asterisk is looked for as it stands. Where all signatures are of that kind, a
verdict is about single lines: an output is taken for a failure exactly if one line of it is. Main
statements: `fits_iff_of_isPlain`, `classify_eq_success`, `exists_classify_eq_failed`.
-/

set_option autoImplicit false

namespace HostAccounts.Diagnostics

/-- The signature is looked for as it stands. -/
def IsPlain (signature : String) : Prop :=
  signature ≠ "" ∧ '*' ∉ signature.toList ∧ Text.lower signature = signature

instance : DecidablePred IsPlain :=
  fun s => inferInstanceAs (Decidable (s ≠ "" ∧ '*' ∉ s.toList ∧ Text.lower s = s))

theorem standIn_singleton_iff {part line : List Char} : StandIn [part] line ↔ part <:+: line := by
  rw [standIn_cons_iff]
  constructor
  · rintro ⟨front, back, rfl, -⟩
    exact ⟨front, back, rfl⟩
  · rintro ⟨front, back, rfl⟩
    exact ⟨front, back, rfl, standIn_nil back⟩

theorem fits_iff_of_isPlain {signature : String} (h : IsPlain signature) (line : String) :
    Fits signature line ↔ Text.contains (Text.lower line) signature = true := by
  obtain ⟨hne, hstar, hlower⟩ := h
  have hnil : signature.toList ≠ [] := by simpa using hne
  obtain ⟨c, cs, hcons⟩ := List.exists_cons_of_ne_nil hnil
  have hc : c ≠ '*' := fun hc => hstar (by simp [hcons, hc])
  have hpieces : (signature.toList.splitOn '*').filter (fun p => p ≠ []) = [signature.toList] := by
    rw [← Text.pieces_eq_splitOn, Text.pieces_of_not_mem hstar]
    simp [hne]
  rw [Fits, hlower, Describes, hpieces, standIn_singleton_iff, Text.contains_iff]
  exact and_iff_right ⟨c, by simp [hcons], hc⟩

/-! ## Lines that decide -/

namespace Diagnostic

/-- The line holds a sign of failure and none that it is harmless. -/
def isBadLine (d : Diagnostic) (line : String) : Bool :=
  d.failure.any (Text.contains (Text.lower line)) &&
    !d.ignore.any (Text.contains (Text.lower line))

/-- All signatures are looked for as they stand, and a lack of bad lines is enough. -/
structure IsPlain (d : Diagnostic) : Prop where
  failure : ∀ s ∈ d.failure, Diagnostics.IsPlain s
  ignore : ∀ s ∈ d.ignore, Diagnostics.IsPlain s
  notFound : d.notFound = []
  confirmation : d.confirmation = none

variable {d : Diagnostic} {output line : String}

theorem IsPlain.isBadLine_iff (h : d.IsPlain) (line : String) :
    d.isBadLine line = true ↔ d.Bears d.failure line := by
  have hfits : ∀ {signatures : List String}, (∀ s ∈ signatures, Diagnostics.IsPlain s) →
      (signatures.any (Text.contains (Text.lower line)) = true ↔
        ∃ s ∈ signatures, Fits s line) := by
    intro signatures hplain
    rw [List.any_eq_true]
    exact exists_congr fun s => and_congr_right fun hs =>
      (fits_iff_of_isPlain (hplain s hs) line).symm
  rw [isBadLine, Bool.and_eq_true, hfits h.failure, Bool.not_eq_true', Bool.eq_false_iff, ne_eq,
    hfits h.ignore, Bears, Counts, and_comm]
  push Not
  rfl

theorem IsPlain.not_shows_notFound (h : d.IsPlain) (output : String) :
    ¬ d.Shows d.notFound output := by
  rintro ⟨l, -, -, s, hs, -⟩
  rw [h.notFound] at hs
  cases hs

/-- Without a bad line the command succeeded. -/
theorem classify_eq_success (h : d.IsPlain)
    (hlines : ∀ l ∈ Text.lines output, d.isBadLine l = false) : d.classify output = .success := by
  refine classify_eq_success_iff.mpr ⟨⟨h.not_shows_notFound output, ?_⟩, ?_⟩
  · rintro ⟨l, hl, hbears⟩
    exact Bool.eq_false_iff.mp (hlines l hl) ((h.isBadLine_iff l).mpr hbears)
  · intro marker hmarker
    rw [h.confirmation] at hmarker
    cases hmarker

/-- A bad line is enough for the command to have failed. -/
theorem exists_classify_eq_failed (h : d.IsPlain) (hline : line ∈ Text.lines output)
    (hbad : d.isBadLine line = true) : ∃ signature, d.classify output = .failed signature :=
  exists_classify_eq_failed_iff.mpr
    ⟨h.not_shows_notFound output, line, hline, (h.isBadLine_iff line).mp hbad⟩

end Diagnostic

/-! ## Lookups -/

/-- The catalogue judges lookups by plain signatures. -/
theorem isPlain_catalogue_read : (catalogue .read).IsPlain where
  failure := by decide +kernel
  ignore := by decide +kernel
  notFound := rfl
  confirmation := rfl

end HostAccounts.Diagnostics
