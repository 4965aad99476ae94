import HostAccounts.Proofs.Shell.Grammar
import HostAccounts.Proofs.Text.Pieces
import HostAccounts.Recipe.Keys
import HostAccounts.Recipe.Permissions

/-!
# What commands do to an account

A command text is read as the deeds that it comes to: which account each names, and which paths. A
host that holds the account does them one after the other, and stops at one that names the account,
its group or its home as they are not at that moment. Main statements: `ofWords?_root`, by which
`sudo` in front of a command changes nothing, and `Host.run_append`.
-/

set_option autoImplicit false

namespace HostAccounts

open Shell (SimpleCommand)

/-! ## Deeds -/

/-- What a command does, as far as it concerns one account. -/
inductive Deed where
  /-- Takes the account out of a group. -/
  | leave (account group : String)
  /-- Changes the account, and its name if one is given. -/
  | alter (account : String) (newName : Option String)
  /-- Gives a group a new name. -/
  | renameGroup (group newName : String)
  /-- Moves a directory. -/
  | move (source target : String)
  /-- Hands a path to the account. -/
  | own (account path : String)
  /-- Makes, writes or removes what is at a path, or sets its mode. -/
  | file (path : String)
  deriving DecidableEq, Repr

namespace Deed

/-- What the arguments of `usermod` ask for: options, most with a value, and then the account. -/
def alteration? (newName : Option String) : List String → Option Deed
  | [] => none
  | [account] => some (.alter account newName)
  | option :: value :: rest =>
    if ["-L", "-U"].contains option then alteration? newName (value :: rest)
    else if option = "-l" then alteration? (some value) rest
    else if ["-d", "-s", "-G", "-c", "-e"].contains option then alteration? newName rest
    else none

/-- What a command does that is not led by `sudo`. An `echo` only feeds the next command. -/
def ofCommand? : List String → Option (List Deed)
  | ["echo", _] => some []
  | ["gpasswd", "-d", account, group] => some [.leave account group]
  | "usermod" :: rest => (alteration? none rest).map fun d => [d]
  | ["groupmod", "-n", newName, group] => some [.renameGroup group newName]
  | ["mv", source, target] => some [.move source target]
  | ["chown", "-R", owner, path] =>
    (Text.dropLast? ':' owner).map fun account => [.own account path]
  | ["mkdir", "-p", path] | ["tee", path] | ["chmod", _, path] | ["rm", "-f", path] =>
    some [.file path]
  | _ => none

/-- What a command does, led by `sudo` or not. The commands of the priming do nothing. -/
def ofWords? : List String → Option (List Deed)
  | ["sudo", "-k"] | ["sudo", "-S", "-p", "", "-v"] => some []
  | "sudo" :: words => ofCommand? words
  | words => ofCommand? words

/-- What commands do one after the other. -/
def ofCommands? : List SimpleCommand → Option (List Deed)
  | [] => some []
  | c :: rest => (ofWords? c.arguments).bind fun ds => (ofCommands? rest).map (ds ++ ·)

end Deed

/-- The deeds that the text of a command comes to. -/
def deeds? (text : String) : Option (List Deed) :=
  (Shell.parse text).bind fun p => Deed.ofCommands? p.flatten

namespace Deed

theorem ofCommands?_append (cs cs' : List SimpleCommand) :
    ofCommands? (cs ++ cs') =
      (ofCommands? cs).bind fun ds => (ofCommands? cs').map (ds ++ ·) := by
  induction cs with
  | nil =>
    rw [List.nil_append, ofCommands?, Option.bind_some]
    cases ofCommands? cs' <;> rfl
  | cons c cs ih =>
    rw [List.cons_append, ofCommands?, ofCommands?, ih]
    cases ofWords? c.arguments with
    | none => rfl
    | some ds =>
      cases ofCommands? cs with
      | none => rfl
      | some es => cases ofCommands? cs' <;> simp

/-- The deeds of a command do not depend on whether it is led by `sudo`. -/
theorem ofWords?_root {root : List String} (hroot : root = [] ∨ root = ["sudo"]) {name : String}
    {rest : List String} (hname : name ∉ ["sudo", "-k", "-S"]) :
    ofWords? (root ++ name :: rest) = ofCommand? (name :: rest) := by
  simp only [List.mem_cons, List.not_mem_nil, or_false, not_or] at hname
  obtain ⟨hsudo, hdrop, hvalidate⟩ := hname
  rcases hroot with rfl | rfl
  · rw [List.nil_append]
    unfold ofWords?
    split
    · next heq => exact absurd (List.head_eq_of_cons_eq heq) hsudo
    · next heq => exact absurd (List.head_eq_of_cons_eq heq) hsudo
    · next heq => exact absurd (List.head_eq_of_cons_eq heq) hsudo
    · rfl
  · rw [List.singleton_append]
    unfold ofWords?
    split
    · next heq => exact absurd (List.head_eq_of_cons_eq (List.tail_eq_of_cons_eq heq)) hdrop
    · next heq => exact absurd (List.head_eq_of_cons_eq (List.tail_eq_of_cons_eq heq)) hvalidate
    · next heq => rw [List.tail_eq_of_cons_eq heq]
    · next hnot => exact absurd rfl (hnot _)

/-- A flag with a value that is no name is passed over together with the value. -/
theorem alteration?_flag {newName : Option String} {option : String}
    (h : option ∈ ["-d", "-s", "-G", "-c", "-e"]) (value : String) (rest : List String) :
    alteration? newName (option :: value :: rest) = alteration? newName rest := by
  have hswitch : ["-L", "-U"].contains option = false ∧ option ≠ "-l" := by
    simp only [List.mem_cons, List.not_mem_nil, or_false] at h
    rcases h with rfl | rfl | rfl | rfl | rfl <;> decide
  rw [alteration?, hswitch.1, if_neg Bool.false_ne_true, if_neg hswitch.2,
    if_pos (List.contains_iff_mem.mpr h)]

theorem alteration?_flags (newName : Option String) (fields : Primitive.AccountFields)
    (setGroups : Bool) (rest : List String) :
    alteration? newName (fields.flags setGroups ++ rest) = alteration? newName rest := by
  have hvalue : ∀ {option : String}, option ∈ ["-d", "-s", "-G", "-c", "-e"] →
      ∀ (value : Option String) (more : List String),
        alteration? newName ((value.toList.flatMap fun v => [option, v]) ++ more) =
          alteration? newName more := by
    intro option h value more
    cases value with
    | none => rfl
    | some v => exact alteration?_flag h v more
  have hgroups : ∀ more : List String,
      alteration? newName
          ((if setGroups && !fields.groups.isEmpty then ["-G", ",".intercalate fields.groups]
            else []) ++ more) =
        alteration? newName more := by
    intro more
    split
    · exact alteration?_flag (by decide) _ more
    · rfl
  rw [Primitive.AccountFields.flags]
  simp only [List.append_assoc]
  rw [hvalue (by decide), hvalue (by decide), hgroups, hvalue (by decide)]

end Deed

/-! ## The host -/

/-- What a host holds of an account. -/
structure Host where
  account : String
  /-- The group that is named after the account. -/
  group : String
  home : String
  deriving DecidableEq, Repr

namespace Host

/-- Does one deed. It fails if the deed names the account, its group or its home as they are not, or
touches a path that is neither of the keys in that home nor the rule of that account. -/
def step (s : Settings) (h : Host) : Deed → Option Host
  | .leave account _ => if account = h.account then some h else none
  | .alter account newName =>
    if account = h.account then some { h with account := newName.getD account } else none
  | .renameGroup group newName =>
    if group = h.group then some { h with group := newName } else none
  | .move source target => if source = h.home then some { h with home := target } else none
  | .own account path =>
    if account = h.account ∧ path = Recipe.keyDirectory h.home then some h else none
  | .file path =>
    if path = Recipe.keyDirectory h.home ∨ path = Recipe.keyFile h.home ∨
        (Recipe.ruleFile s .account h.account).toOption = some path then some h
    else none

/-- Does deeds one after the other. -/
def run (s : Settings) (h : Host) : List Deed → Option Host
  | [] => some h
  | d :: ds => (h.step s d).bind fun h' => run s h' ds

theorem run_append (s : Settings) (h : Host) (ds es : List Deed) :
    h.run s (ds ++ es) = (h.run s ds).bind fun h' => h'.run s es := by
  induction ds generalizing h with
  | nil => rfl
  | cons d ds ih =>
    rw [List.cons_append, run, run]
    cases h.step s d with
    | none => rfl
    | some h' => exact ih h'

/-- Deeds that each leave the host as it is leave it as it is. -/
theorem run_of_forall_step {s : Settings} {h : Host} {ds : List Deed}
    (hstep : ∀ d ∈ ds, h.step s d = some h) : h.run s ds = some h := by
  induction ds with
  | nil => rfl
  | cons d ds ih =>
    rw [run, hstep d (List.mem_cons_self ..), Option.bind_some]
    exact ih fun e he => hstep e (List.mem_cons_of_mem _ he)

end Host

end HostAccounts
