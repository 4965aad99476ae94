import HostAccounts.Proofs.Recipe.Deeds
import Mathlib.Data.Finset.Basic

/-!
# Accounts and files of a host

What command texts do to the accounts that a host has and to the files that are written and removed
on it. Most commands change neither. Main statements: `Plan.Makes.changes_command`, by which the
changes that are read of a command text are those of the steps of its plan, whatever the elevation,
and `Registry.after_of_isOnFile`, by which changes of files leave all else alone.
-/

set_option autoImplicit false

namespace HostAccounts

open Shell (CommandLine Program SimpleCommand)

/-! ## Changes -/

/-- What a command changes about which accounts there are and which files. -/
inductive Change where
  | add (account : String)
  | rename (account newName : String)
  | remove (account : String)
  | write (path : String)
  | erase (path : String)
  deriving DecidableEq, Repr

namespace Change

/-- The changes of a command that is not led by `sudo`. -/
def ofCommand : List String → List Change
  | "useradd" :: rest => rest.getLast?.toList.map add
  | "usermod" :: rest =>
    match Deed.alteration? none rest with
    | some (.alter account (some newName)) => [rename account newName]
    | _ => []
  | "userdel" :: rest => rest.getLast?.toList.map remove
  | ["tee", path] => [write path]
  | ["rm", "-f", path] => [erase path]
  | _ => []

/-- The changes of a command, led by `sudo` or not. -/
def ofWords : List String → List Change
  | "sudo" :: words => ofCommand words
  | words => ofCommand words

/-- The changes of commands, one after the other. -/
def ofCommands (cs : List SimpleCommand) : List Change :=
  cs.flatMap fun c => ofWords c.arguments

theorem ofCommands_append (cs ds : List SimpleCommand) :
    ofCommands (cs ++ ds) = ofCommands cs ++ ofCommands ds :=
  List.flatMap_append

/-- The change is one of a file at such a path. -/
def IsOnFile (P : String → Prop) : Change → Prop
  | write path | erase path => P path
  | _ => False

/-- The changes of a command do not depend on whether it is led by `sudo`. -/
theorem ofWords_root {root : List String} (hroot : root = [] ∨ root = ["sudo"]) {name : String}
    {rest : List String} (hname : name ≠ "sudo") :
    ofWords (root ++ name :: rest) = ofCommand (name :: rest) := by
  rcases hroot with rfl | rfl
  · rw [List.nil_append]
    unfold ofWords
    split
    · next heq => exact absurd (List.head_eq_of_cons_eq heq) hname
    · rfl
  · rfl

/-- Only five commands change anything. -/
theorem ofCommand_eq_nil {name : String} {rest : List String}
    (h : name ∉ ["useradd", "usermod", "userdel", "tee", "rm"]) :
    ofCommand (name :: rest) = [] := by
  simp only [List.mem_cons, List.not_mem_nil, or_false, not_or] at h
  obtain ⟨hadd, hmod, hdel, htee, hrm⟩ := h
  unfold ofCommand
  split
  · next heq => exact absurd (List.head_eq_of_cons_eq heq) hadd
  · next heq => exact absurd (List.head_eq_of_cons_eq heq) hmod
  · next heq => exact absurd (List.head_eq_of_cons_eq heq) hdel
  · next heq => exact absurd (List.head_eq_of_cons_eq heq) htee
  · next heq => exact absurd (List.head_eq_of_cons_eq heq) hrm
  · rfl

end Change

/-- The changes that the text of a command comes to. -/
def changes (text : String) : List Change :=
  match Shell.parse text with
  | some p => Change.ofCommands p.flatten
  | none => []

/-! ## The registry -/

/-- The accounts that a host has, and the files that are on it. -/
structure Registry where
  accounts : Finset String
  files : Finset String
  deriving DecidableEq

namespace Registry

/-- The registry after one change. -/
def step (r : Registry) : Change → Registry
  | .add account => { r with accounts := insert account r.accounts }
  | .rename account newName => { r with accounts := insert newName (r.accounts.erase account) }
  | .remove account => { r with accounts := r.accounts.erase account }
  | .write path => { r with files := insert path r.files }
  | .erase path => { r with files := r.files.erase path }

/-- The registry after changes, one after the other. -/
def after (r : Registry) (cs : List Change) : Registry :=
  cs.foldl step r

theorem after_cons (r : Registry) (c : Change) (cs : List Change) :
    r.after (c :: cs) = (r.step c).after cs := rfl

/-- Changes of files leave the accounts as they are, and all other files. -/
theorem after_of_isOnFile {P : String → Prop} {cs : List Change} (h : ∀ c ∈ cs, c.IsOnFile P)
    (r : Registry) : (r.after cs).accounts = r.accounts ∧
      ∀ path, ¬ P path → (path ∈ (r.after cs).files ↔ path ∈ r.files) := by
  induction cs generalizing r with
  | nil => exact ⟨rfl, fun _ _ => Iff.rfl⟩
  | cons c rest ih =>
    obtain ⟨haccounts, hfiles⟩ := ih (fun c hc => h c (List.mem_cons_of_mem _ hc)) (r.step c)
    have hc := h c (List.mem_cons_self ..)
    rw [after_cons, haccounts]
    cases c with
    | write written =>
      refine ⟨rfl, fun path hpath => (hfiles path hpath).trans ?_⟩
      have hne : path ≠ written := fun heq => hpath (heq ▸ hc)
      simp [step, hne]
    | erase erased =>
      refine ⟨rfl, fun path hpath => (hfiles path hpath).trans ?_⟩
      have hne : path ≠ erased := fun heq => hpath (heq ▸ hc)
      simp [step, hne]
    | _ => exact hc.elim

end Registry

/-! ## The changes of a plan -/

namespace Plan

/-- The plan comes to the changes, whether it runs through `sudo` or not. -/
def Makes (p : Plan) (cs : List Change) : Prop :=
  ∀ root, root = [] ∨ root = ["sudo"] →
    Change.ofCommands (p.flatMap (Intent.commandLine root)) = cs

theorem makes_nil : Makes [] [] :=
  fun _ _ => rfl

theorem Makes.append {p q : Plan} {cs ds : List Change} (hp : p.Makes cs) (hq : q.Makes ds) :
    Makes (p ++ q) (cs ++ ds) := by
  intro root hroot
  rw [List.flatMap_append, Change.ofCommands_append, hp root hroot, hq root hroot]

theorem Makes.cons {i : Intent} {p : Plan} {cs ds : List Change} (hi : Makes [i] cs)
    (hp : p.Makes ds) : Makes (i :: p) (cs ++ ds) :=
  hi.append hp

/-- Steps that each change nothing change nothing together. -/
theorem makes_nil_of_forall {p : Plan} (h : ∀ i ∈ p, Makes [i] []) : Makes p [] := by
  induction p with
  | nil => exact makes_nil
  | cons i rest ih =>
    exact (h i (List.mem_cons_self ..)).cons (ih fun i hi => h i (List.mem_cons_of_mem _ hi))

/-- A step with root rights makes the changes of its one command. -/
theorem makes_run {p : Shell.Pipeline} {name : String} {rest : List String}
    {files : List (Nat × String)} {cs : List Change} (hp : p.meaning = [⟨name :: rest, files⟩])
    (hname : name ≠ "sudo") (h : Change.ofCommand (name :: rest) = cs) : Makes [.run p] cs := by
  intro root hroot
  have hwords := (Change.ofWords_root hroot hname).trans h
  simp only [Change.ofCommands, List.flatMap_cons, List.flatMap_nil, List.append_nil,
    Intent.commandLine, hp, CommandLine.ledBy, hwords]

/-- Most commands change nothing. -/
theorem makes_run_nil {p : Shell.Pipeline} {name : String} {rest : List String}
    {files : List (Nat × String)} (hp : p.meaning = [⟨name :: rest, files⟩])
    (hname : name ∉ ["sudo", "useradd", "usermod", "userdel", "tee", "rm"]) :
    Makes [.run p] [] := by
  rw [List.mem_cons, not_or] at hname
  exact makes_run hp hname.1 (Change.ofCommand_eq_nil hname.2)

/-- What feeds a command changes nothing. -/
theorem makes_feed {p : Shell.Pipeline} {cs : List Change} (payload : String)
    (h : Makes [.run p] cs) : Makes [.feed payload p] cs :=
  h

theorem makes_feedSecret {p : Shell.Pipeline} {cs : List Change} (payload : String)
    (h : Makes [.run p] cs) : Makes [.feedSecret payload p] cs :=
  h

/-- What needs no root rights is sent as it is written. -/
theorem makes_plain {p : Shell.Pipeline} {cs : List Change}
    (h : Change.ofCommands p.meaning = cs) : Makes [.plain p] cs := by
  intro root _
  rw [List.flatMap_cons, List.flatMap_nil, List.append_nil]
  exact h

/-- What is read of the command of a plan is what its steps change. -/
theorem Makes.changes_command {p : Plan} {cs : List Change} (h : p.Makes cs) (hmade : p.IsMade)
    (e : Elevation) : changes (p.command e).text = cs := by
  rw [changes, parse_text_command hmade]
  exact read_program Change.ofCommands_append (fun _ => rfl) h e

/-- A plan that changes something has a command. -/
theorem Makes.exists_command? {p : Plan} {cs : List Change} (h : p.Makes cs) (hmade : p.IsMade)
    (hne : cs ≠ []) (e : Elevation) :
    ∃ command, p.command? e = some command ∧ changes command.text = cs := by
  have hp : p ≠ [] := by
    rintro rfl
    exact hne (h [] (.inl rfl)).symm
  exact ⟨_, command?_of_ne_nil hp, h.changes_command hmade e⟩

end Plan

end HostAccounts
