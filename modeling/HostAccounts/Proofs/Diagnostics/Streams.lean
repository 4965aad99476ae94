import HostAccounts.Proofs.Diagnostics.Verdict
import HostAccounts.Transport.Fault

/-!
# Outputs and errors

What a command printed is judged as one text, its errors behind its output. Where the output ends
with a line that is not ended, that line and the first line of the errors are one line for the
judge, and what one of the two says may be lost, or be said by neither of them. Nothing else is:
main statements `classify_combinedOutput_iff` and `combines_iff`.
-/

set_option autoImplicit false

namespace HostAccounts.Diagnostics

/-- The first line, if there is one. -/
def firstLine (s : String) : String :=
  (Text.lines s).headD ""

/-- The line in which the output and the errors meet. -/
def seam (output errors : String) : String :=
  firstLine (Text.unfinished output ++ errors)

namespace Diagnostic

variable {d : Diagnostic} {output errors : String}

/-! ## Harmless lines -/

/-- The line bears no sign at all. -/
def IsHarmless (d : Diagnostic) (line : String) : Prop :=
  ¬ d.Bears d.notFound line ∧ ¬ d.Bears d.failure line

instance (d : Diagnostic) (line : String) : Decidable (d.IsHarmless line) :=
  inferInstanceAs (Decidable (_ ∧ _))

theorem isHarmless_empty (d : Diagnostic) : d.IsHarmless "" := by
  have hfits : ∀ s, ¬ Fits s "" := fun s => not_describes_nil (Text.lower s).toList
  exact ⟨fun ⟨_, s, _, hs⟩ => hfits s hs, fun ⟨_, s, _, hs⟩ => hfits s hs⟩

/-- Without a text that has to be there, a success is an output of harmless lines. -/
theorem classify_eq_success_iff_isHarmless (h : d.confirmation = none) :
    d.classify output = .success ↔ ∀ l ∈ Text.lines output, d.IsHarmless l := by
  rw [classify_eq_success_iff, Shows, Shows]
  push Not
  simp only [h, IsHarmless, forall_and, reduceCtorEq, false_implies, implies_true, and_true]

theorem forall_lines_isHarmless_iff (d : Diagnostic) (s : String) :
    (∀ l ∈ Text.lines s, d.IsHarmless l) ↔
      d.IsHarmless (firstLine s) ∧ ∀ l ∈ (Text.lines s).tail, d.IsHarmless l := by
  rw [firstLine]
  cases Text.lines s with
  | nil => simp [isHarmless_empty]
  | cons l ls => simp

/-! ## The line between the two -/

theorem firstLine_of_not_mem {s : String} (h : '\n' ∉ s.toList) :
    firstLine s = s ∧ (Text.lines s).tail = [] := by
  rw [firstLine, Text.lines_of_not_mem h]
  split
  · next hempty => exact ⟨hempty.symm, rfl⟩
  · exact ⟨rfl, rfl⟩

/-- The lines away from the seam: those that the output ends, and those of the errors behind their
first. -/
def linesAside (output errors : String) : List String :=
  Text.lines (Text.finished output) ++ (Text.lines errors).tail

theorem classify_output_iff (h : d.confirmation = none) :
    d.classify output = .success ↔
      (∀ l ∈ Text.lines (Text.finished output), d.IsHarmless l) ∧
        d.IsHarmless (Text.unfinished output) := by
  obtain ⟨hfirst, htail⟩ := firstLine_of_not_mem (Text.not_mem_unfinished output)
  have hlines := Text.lines_append output ""
  rw [String.append_empty, String.append_empty] at hlines
  rw [classify_eq_success_iff_isHarmless h, hlines, List.forall_mem_append]
  rw [forall_lines_isHarmless_iff d (Text.unfinished output), hfirst, htail]
  simp

/-- The two texts together are a success exactly if the line in which they meet is harmless, and all
lines away from it are. -/
theorem classify_combinedOutput_iff (h : d.confirmation = none) :
    d.classify (combinedOutput output errors) = .success ↔
      d.IsHarmless (seam output errors) ∧ ∀ l ∈ linesAside output errors, d.IsHarmless l := by
  rw [classify_eq_success_iff_isHarmless h, combinedOutput, Text.lines_append,
    List.forall_mem_append, forall_lines_isHarmless_iff d (Text.unfinished output ++ errors),
    Text.tail_lines_append (Text.not_mem_unfinished output), linesAside, List.forall_mem_append,
    seam]
  exact and_left_comm

/-- Each of the texts is a success exactly if the two lines that meet are harmless, and all lines
away from them are. -/
theorem classify_both_iff (h : d.confirmation = none) :
    d.classify output = .success ∧ d.classify errors = .success ↔
      (d.IsHarmless (Text.unfinished output) ∧ d.IsHarmless (firstLine errors)) ∧
        ∀ l ∈ linesAside output errors, d.IsHarmless l := by
  rw [classify_output_iff h, classify_eq_success_iff_isHarmless h,
    forall_lines_isHarmless_iff d errors, linesAside, List.forall_mem_append,
    and_comm (a := ∀ l ∈ Text.lines (Text.finished output), d.IsHarmless l)]
  exact and_and_and_comm

/-- The two texts are judged together as each for itself. -/
def Combines (d : Diagnostic) (output errors : String) : Prop :=
  d.classify (combinedOutput output errors) = .success ↔
    d.classify output = .success ∧ d.classify errors = .success

/-- Where nothing has to be there, two texts are judged together as each for itself exactly if a
line away from the seam bears a sign, or if the line at the seam is harmless just when both its
parts are. So they are whenever the output ends where a line ends, or there are no errors. -/
theorem combines_iff (h : d.confirmation = none) (output errors : String) :
    (d.Combines output errors ↔
      (∃ l ∈ linesAside output errors, ¬ d.IsHarmless l) ∨
        (d.IsHarmless (seam output errors) ↔
          d.IsHarmless (Text.unfinished output) ∧ d.IsHarmless (firstLine errors))) ∧
      (Text.IsClosed output ∨ errors = "" → d.Combines output errors) := by
  have hcombines : d.Combines output errors ↔
      (∃ l ∈ linesAside output errors, ¬ d.IsHarmless l) ∨
        (d.IsHarmless (seam output errors) ↔
          d.IsHarmless (Text.unfinished output) ∧ d.IsHarmless (firstLine errors)) := by
    rw [Combines, classify_combinedOutput_iff h, classify_both_iff h, and_congr_left_iff,
      imp_iff_not_or, not_forall]
    simp only [not_forall, exists_prop]
  refine ⟨hcombines, fun hends => hcombines.mpr (.inr ?_)⟩
  rcases hends with hclosed | rfl
  · -- Nothing stands in front of the first line of the errors.
    rw [seam, Text.unfinished_of_isClosed hclosed, String.empty_append]
    exact (and_iff_right d.isHarmless_empty).symm
  · rw [seam, String.append_empty, (firstLine_of_not_mem (Text.not_mem_unfinished output)).1]
    exact (and_iff_left d.isHarmless_empty).symm

/-- A failure behind a notice that is not ended, and one behind a warning that is. -/
theorem combines_iff_useradd :
    (catalogue .useradd).confirmation = none ∧
      (catalogue .useradd).Combines "adding svc1" "useradd: no space left\n" ∧
      (catalogue .useradd).Combines "warning: busy\n" "useradd: no space left\n" := by
  have hconfirmation : (catalogue .useradd).confirmation = none := rfl
  refine ⟨hconfirmation, ?_, ?_⟩
  · exact (combines_iff hconfirmation "adding svc1" _).1.mpr (.inr (by decide +kernel))
  · exact (combines_iff hconfirmation "warning: busy\n" _).2 (.inl (by decide))

/-- A warning that is not ended hides the failure behind it. -/
theorem not_combines :
    ¬ ∀ (d : Diagnostic) (output errors : String), d.confirmation = none →
      d.Combines output errors := by
  intro h
  have hhidden := h (catalogue .useradd) "warning: busy" "useradd: no space left\n" rfl
  have hwhole : (catalogue .useradd).classify
      (combinedOutput "warning: busy" "useradd: no space left\n") = .success := by
    decide +kernel
  have herrors : (catalogue .useradd).classify "useradd: no space left\n" = .failed "useradd:" := by
    decide +kernel
  have hsuccess := (hhidden.mp hwhole).2
  rw [herrors] at hsuccess
  cases hsuccess

end Diagnostic

end HostAccounts.Diagnostics
