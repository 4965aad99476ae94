import HostAccounts.Script
import Mathlib.Data.List.Induction
import Mathlib.Tactic.ByContra

/-!
# Priming

What a composed script consists of, said without the draft that it was put together in. A script
through `sudo` drops the cached timestamp and validates the password once, right before the first
step that needs root rights; all that runs with root rights is led by the bare `sudo`. Main
statement: `composition`, for every script under every elevation.
-/

set_option autoImplicit false

namespace HostAccounts

open Shell (singleQuote)

/-! ## Steps on their own -/

namespace Step

/-- The step runs something with root rights. -/
def needsRoot : Step → Bool
  | plain _ => false
  | _ => true

/-- The step feeds a payload to its command. -/
def isPiped : Step → Bool
  | piped .. | pipedSecret .. => true
  | _ => false

/-- The payload that must not be shown. -/
def secret? : Step → Option String
  | pipedSecret payload _ => some payload
  | _ => none

/-- The text of the step with the given word in front of what runs with root rights. What is fed
through a pipe is printed by the session user, so that the word stands behind the pipe. -/
def worded (root : String) : Step → String
  | plain fragment => fragment
  | elevated fragment => root ++ fragment
  | piped payload fragment | pipedSecret payload fragment =>
    "echo " ++ payload ++ " | " ++ root ++ fragment

end Step

/-! ## Segments -/

/-- Drops the cached timestamp and validates the password, which is read from standard input. -/
def primingBlock (secret : String) : String :=
  "sudo -k; echo " ++ singleQuote secret ++ " | sudo -S -p '' -v; "

namespace Script

/-- The segments of a script through `sudo`: the block stands in front of the first step that needs
root rights, and of no other. -/
def primedSegments (block : String) : Script → List String
  | [] => []
  | st :: rest =>
    if st.needsRoot then (block ++ st.worded "sudo ") :: rest.map (Step.worded "sudo ")
    else st.worded "sudo " :: primedSegments block rest

/-- The segments of a script, one for each step. -/
def segments (s : Script) : Elevation → List String
  | .alreadyRoot => s.map (Step.worded "")
  | .viaSudo secret => s.primedSegments (primingBlock (secret.getD ""))

/-- What must not be shown: the quoted password and the payloads that are secret. -/
def secrets (e : Elevation) (s : Script) : List String :=
  e.quotedSecret?.toList ++ s.filterMap Step.secret?

/-- Standard input is read: by a command that a payload is fed to, or by the priming. -/
def ReadsInput (e : Elevation) (s : Script) : Prop :=
  (∃ st ∈ s, st.isPiped = true) ∨ e.isRequired = true ∧ ∃ st ∈ s, st.needsRoot = true

theorem length_primedSegments (block : String) (s : Script) :
    (s.primedSegments block).length = s.length := by
  induction s with
  | nil => rfl
  | cons st rest ih =>
    unfold primedSegments
    split
    · simp
    · simp [ih]

/-- One more step adds one segment; it carries the block if no step before it needs root rights. -/
theorem primedSegments_append_singleton (block : String) (s : Script) (st : Step) :
    primedSegments block (s ++ [st]) = primedSegments block s ++
      [(if st.needsRoot && !s.any Step.needsRoot then block else "") ++ st.worded "sudo "] := by
  induction s with
  | nil => cases h : st.needsRoot <;> simp [primedSegments, h]
  | cons first rest ih =>
    rw [List.cons_append, primedSegments, primedSegments]
    cases h : first.needsRoot with
    | true => simp [h]
    | false => simp [h, ih]

/-- Without a step that needs root rights there is no block. -/
theorem primedSegments_of_unprivileged {s : Script} (h : ∀ st ∈ s, st.needsRoot = false)
    (block : String) : s.primedSegments block = s.map (Step.worded "sudo ") := by
  induction s with
  | nil => rfl
  | cons st rest ih =>
    have hst : st.needsRoot = false := h st (List.mem_cons_self ..)
    have hrest : ∀ st ∈ rest, st.needsRoot = false := fun x hx => h x (List.mem_cons_of_mem _ hx)
    simp [primedSegments, hst, ih hrest]

theorem readsInput_append_singleton (e : Elevation) (s : Script) (st : Step) :
    (s ++ [st]).ReadsInput e ↔
      s.ReadsInput e ∨ st.isPiped = true ∨ e.isRequired = true ∧ st.needsRoot = true := by
  simp only [ReadsInput, List.mem_append, List.mem_singleton, or_and_right, exists_or,
    exists_eq_left, and_or_left]
  exact or_or_or_comm

end Script

/-! ## The draft of a script -/

namespace Elevation

theorem priming_viaSudo (secret : Option String) :
    (viaSudo secret).priming = primingBlock (secret.getD "") := rfl

theorem isRequired_viaSudo (secret : Option String) : (viaSudo secret).isRequired = true := rfl

theorem isRequired_alreadyRoot : alreadyRoot.isRequired = false := rfl

end Elevation

namespace Draft

/-- The segment that a step adds. -/
theorem segments_add (e : Elevation) (d : Draft) (st : Step) :
    (d.add e st).segments = d.segments ++
      [match e with
        | .alreadyRoot => st.worded ""
        | .viaSudo secret =>
          (if st.needsRoot && !d.primed then primingBlock (secret.getD "") else "") ++
            st.worded "sudo "] := by
  cases e with
  | alreadyRoot =>
    cases st <;> simp [add, pipe, push, takeLead, nextLead, Step.worded, String.append_assoc,
      Elevation.isRequired_alreadyRoot, Elevation.lead]
  | viaSudo secret =>
    cases hp : d.primed <;> cases st <;>
      simp [add, pipe, push, takeLead, nextLead, Step.worded, Step.needsRoot, String.append_assoc,
        Elevation.isRequired_viaSudo, Elevation.priming_viaSudo, Elevation.lead, hp]

/-- A step that needs root rights is primed or finds the script primed. -/
theorem primed_add (e : Elevation) (d : Draft) (st : Step) :
    (d.add e st).primed = (d.primed || (e.isRequired && st.needsRoot)) := by
  cases he : e.isRequired <;> cases hp : d.primed <;> cases st <;>
    simp [add, pipe, push, takeLead, nextLead, Step.needsRoot, he, hp]

theorem secrets_add (e : Elevation) (d : Draft) (st : Step) :
    (d.add e st).secrets = d.secrets ++ st.secret?.toList := by
  cases he : e.isRequired <;> cases hp : d.primed <;> cases st <;>
    simp [add, pipe, push, takeLead, nextLead, Step.secret?, he, hp]

/-- A pipe and a priming turn the channel; nothing turns it back. -/
theorem channel_add (e : Elevation) (d : Draft) (st : Step) :
    (d.add e st).channel =
      if st.isPiped || (e.isRequired && st.needsRoot && !d.primed) then .interactive
      else d.channel := by
  cases he : e.isRequired <;> cases hp : d.primed <;> cases st <;>
    simp [add, pipe, push, takeLead, nextLead, Step.isPiped, Step.needsRoot, he, hp]

/-- What a draft owes to the steps it was put together from. -/
structure Holds (e : Elevation) (s : Script) (d : Draft) : Prop where
  segments : d.segments = s.segments e
  secrets : d.secrets = s.secrets e
  primed : d.primed = (e.isRequired && s.any Step.needsRoot)
  channel : d.channel = .interactive ↔ s.ReadsInput e

theorem holds_start (e : Elevation) : Holds e [] (start e) := by
  constructor
  · cases e <;> rfl
  · simp [start, Script.secrets]
  · simp [start]
  · simp [start, Script.ReadsInput]

/-- A step keeps what the draft owes. The flag says whether a step so far needed root rights, which
is what decides where the block stands. -/
theorem Holds.add {e : Elevation} {s : Script} {d : Draft} (h : Holds e s d) (st : Step) :
    Holds e (s ++ [st]) (d.add e st) := by
  constructor
  · rw [segments_add, h.segments, h.primed]
    cases e with
    | alreadyRoot => simp [Script.segments]
    | viaSudo secret =>
      simp [Script.segments, Script.primedSegments_append_singleton, Elevation.isRequired_viaSudo]
  · rw [secrets_add, h.secrets]
    cases hs : st.secret? <;> simp [Script.secrets, hs]
  · rw [primed_add, h.primed]
    cases e.isRequired <;> simp
  · have hprimed : d.primed = true → e.isRequired = true → s.ReadsInput e := by
      intro hd he
      rw [h.primed, he, Bool.true_and, List.any_eq_true] at hd
      exact Or.inr ⟨he, hd⟩
    rw [channel_add, Script.readsInput_append_singleton, ← h.channel]
    cases hp : d.primed with
    | false => cases st.isPiped <;> cases e.isRequired <;> cases st.needsRoot <;> simp
    | true =>
      cases he : e.isRequired with
      | false => cases st.isPiped <;> simp
      | true =>
        have hd : d.channel = .interactive := h.channel.mpr (hprimed hp he)
        cases st.isPiped <;> simp [hd]

end Draft

namespace Script

/-- The draft of a script owes what it should to all of its steps. -/
theorem holds_draft (e : Elevation) (s : Script) : (s.draft e).Holds e s := by
  induction s using List.reverseRecOn with
  | nil => exact Draft.holds_start e
  | append_singleton s st ih =>
    rw [draft, List.foldl_append]
    exact Draft.Holds.add ih st

theorem length_segments (e : Elevation) (s : Script) : (s.segments e).length = s.length := by
  cases e with
  | alreadyRoot => simp [segments]
  | viaSudo secret => exact length_primedSegments _ s

theorem segments_eq_nil_iff {e : Elevation} {s : Script} : s.segments e = [] ↔ s = [] := by
  rw [← List.length_eq_zero_iff, length_segments, List.length_eq_zero_iff]

/-- The command of a script with a step. -/
theorem command?_of_ne_nil {e : Elevation} {s : Script} (h : s ≠ []) :
    s.command? e = some ⟨"; ".intercalate (s.segments e),
      redact (s.secrets e) ("; ".intercalate (s.segments e)), (s.draft e).channel⟩ := by
  have hd := holds_draft e s
  have hne : (s.draft e).segments.isEmpty = false := by
    rw [hd.segments, List.isEmpty_eq_false_iff]
    exact fun hs => h (segments_eq_nil_iff.mp hs)
  rw [command?, Draft.build?, hne, Draft.text, hd.segments, hd.secrets]
  rfl

theorem command?_nil (e : Elevation) : command? e [] = none := rfl

theorem command?_eq_none_iff {e : Elevation} {s : Script} : s.command? e = none ↔ s = [] := by
  constructor
  · intro h
    by_contra hne
    rw [command?_of_ne_nil hne] at h
    cases h
  · rintro rfl
    exact command?_nil e

/-- The text of the command, also of a script without steps. -/
theorem text_command (e : Elevation) (s : Script) :
    (s.command e).text = "; ".intercalate (s.segments e) := by
  by_cases h : s = []
  · subst h
    cases e <;> rfl
  · rw [command, command?_of_ne_nil h, Option.getD_some]

/-! ## Where the password stands -/

/-- In a joined text a part of one piece stands between two texts that do not depend on it. -/
theorem intercalate_led (sep piece : String) (before after : List String) :
    ∃ a b : String, ∀ lead : String,
      sep.intercalate (before ++ (lead ++ piece) :: after) = a ++ lead ++ b := by
  have htail : ∃ b : String, ∀ lead : String,
      sep.intercalate ((lead ++ piece) :: after) = lead ++ b := by
    by_cases hafter : after = []
    · exact ⟨piece, fun lead => by rw [hafter, String.intercalate_singleton]⟩
    · refine ⟨piece ++ sep ++ sep.intercalate after, fun lead => ?_⟩
      rw [String.intercalate_cons_of_ne_nil hafter]
      simp only [String.append_assoc]
  obtain ⟨b, hb⟩ := htail
  by_cases hbefore : before = []
  · exact ⟨"", b, fun lead => by rw [hbefore, List.nil_append, hb, String.empty_append]⟩
  · refine ⟨sep.intercalate before ++ sep, b, fun lead => ?_⟩
    rw [String.intercalate_append_of_ne_nil hbefore (List.cons_ne_nil _ _), hb]
    simp only [String.append_assoc]

/-- Around the first step that needs root rights nothing depends on the block. -/
theorem primedSegments_split {s : Script} (h : ∃ st ∈ s, st.needsRoot = true) :
    ∃ (before after : List String) (piece : String), ∀ block,
      s.primedSegments block = before ++ (block ++ piece) :: after := by
  induction s with
  | nil =>
    obtain ⟨_, hmem, _⟩ := h
    cases hmem
  | cons first rest ih =>
    cases hf : first.needsRoot with
    | true =>
      refine ⟨[], rest.map (Step.worded "sudo "), first.worded "sudo ", fun block => ?_⟩
      simp [primedSegments, hf]
    | false =>
      have hrest : ∃ st ∈ rest, st.needsRoot = true := by
        obtain ⟨st, hmem, hst⟩ := h
        rcases List.mem_cons.mp hmem with rfl | hmem
        · rw [hf] at hst
          cases hst
        · exact ⟨st, hmem, hst⟩
      obtain ⟨before, after, piece, hsplit⟩ := ih hrest
      refine ⟨first.worded "sudo " :: before, after, piece, fun block => ?_⟩
      simp [primedSegments, hf, hsplit block]

/-- The composition of scripts. There is a command unless there is no step. Its text joins one
segment for each step, in order, with the priming block in front of the first step that needs root
rights and nowhere else; it takes a shell of its own exactly if something reads standard input. The
password stands in one place of the text, or in none. -/
theorem composition (e : Elevation) (s : Script) :
    (s.command? e = none ↔ s = []) ∧
    (s ≠ [] → ∃ c, s.command? e = some c ∧
      c.text = "; ".intercalate (s.segments e) ∧ (s.segments e).length = s.length ∧
      (c.channel = .interactive ↔ s.ReadsInput e)) ∧
    ((∃ st ∈ s, st.needsRoot = true) → ∃ a b : String, ∀ secret,
      (s.command (.viaSudo secret)).text = a ++ singleQuote (secret.getD "") ++ b) ∧
    ((∀ st ∈ s, st.needsRoot = false) → ∃ t : String, ∀ secret,
      (s.command (.viaSudo secret)).text = t) := by
  refine ⟨command?_eq_none_iff, ?_, ?_, ?_⟩
  · intro h
    exact ⟨_, command?_of_ne_nil h, rfl, length_segments e s, (holds_draft e s).channel⟩
  · intro h
    obtain ⟨before, after, piece, hsplit⟩ := primedSegments_split h
    obtain ⟨a, b, hled⟩ := intercalate_led "; " piece before after
    refine ⟨a ++ "sudo -k; echo ", " | sudo -S -p '' -v; " ++ b, fun secret => ?_⟩
    rw [text_command, segments, hsplit, hled, primingBlock]
    simp only [String.append_assoc]
  · intro h
    refine ⟨"; ".intercalate (s.map (Step.worded "sudo ")), fun secret => ?_⟩
    rw [text_command, segments, primedSegments_of_unprivileged h]

/-- The priming waits for the first step that needs it, and is not repeated. -/
theorem composition_of_three :
    ∃ c, Script.command? (.viaSudo (some "x'y"))
        [.plain "id", .elevated "true", .pipedSecret "'p'" "chpasswd"] = some c ∧
      c.text =
        "id; sudo -k; echo 'x'\\''y' | sudo -S -p '' -v; sudo true; echo 'p' | sudo chpasswd" ∧
      c.channel = .interactive := by
  obtain ⟨c, hc, htext, -, hchannel⟩ := (composition (.viaSudo (some "x'y"))
    [.plain "id", .elevated "true", .pipedSecret "'p'" "chpasswd"]).2.1 (List.cons_ne_nil _ _)
  refine ⟨c, hc, ?_, ?_⟩
  · rw [htext]
    decide
  · exact hchannel.mpr (Or.inl ⟨.pipedSecret "'p'" "chpasswd", by decide, rfl⟩)

end Script

end HostAccounts
