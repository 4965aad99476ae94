import HostAccounts.Proofs.Recipe.Reading
import HostAccounts.Proofs.Recipe.Redaction
import HostAccounts.Proofs.Text.Pieces
import HostAccounts.Provision.Create

/-!
# Password records

What a command that sets a password feeds to `chpasswd`, and what that reads in it. The quoting sees
to it that the record arrives as it is, but `chpasswd` takes every line for a record of its own, and
nobody looks for line feeds in a password. Main statement: `passwordRecords?_setPassword_iff`.
-/

set_option autoImplicit false

namespace HostAccounts

open Shell (CommandLine Program)

/-! ## Standard input -/

/-- What `echo` prints: its argument as it is, and a line feed. -/
def echoed (argument : String) : String :=
  argument ++ "\n"

/-- What a pipeline feeds to the command of the name, with `sudo` in front of it or not. -/
def inputOf? (name : String) : CommandLine → Option String
  | [⟨["echo", argument], []⟩, reader] =>
    if reader = ⟨[name], []⟩ ∨ reader = ⟨["sudo", name], []⟩ then some (echoed argument) else none
  | _ => none

/-- What the shell feeds to the commands of the name when it runs a text. -/
def inputs? (name text : String) : Option (List String) :=
  (Shell.parse text).map fun p => p.filterMap (inputOf? name)

/-- The lines of an input. A last line without a line feed counts if it is not empty. -/
def inputLines (input : String) : List String :=
  let lines := Text.splitOn '\n' input
  lines.dropLast ++ (lines.getLast?.filter fun l => !l.isEmpty).toList

/-- The records of names and passwords that `chpasswd` reads, one on each line up to the first colon
and behind it; none if there is a line that is no record. -/
def passwordRecords? (input : String) : Option (List (String × String)) :=
  (inputLines input).mapM (Text.splitFirst? ':')

theorem eq_nil_of_mapM_eq_nil {α β : Type} {f : α → Option β} {xs : List α}
    (h : xs.mapM f = some []) : xs = [] := by
  cases xs with
  | nil => rfl
  | cons x rest =>
    rw [List.mapM_cons] at h
    obtain ⟨y, -, h⟩ := Option.bind_eq_some_iff.mp h
    obtain ⟨ys, -, h⟩ := Option.bind_eq_some_iff.mp h
    cases h

theorem inputLines_echoed (argument : String) :
    inputLines (echoed argument) = Text.splitOn '\n' argument := by
  have hlines : Text.splitOn '\n' (echoed argument) = Text.splitOn '\n' argument ++ [""] := by
    simp [Text.splitOn, echoed, Text.pieces_append_separator]
  simp [inputLines, hlines]

/-! ## The record of an account -/

namespace Recipe

/-- The record is what `chpasswd` is fed, and nothing else is. -/
theorem inputs?_setPassword (s : Settings) (user password : String) :
    inputs? "chpasswd" (setPassword s user password).text =
      some [echoed (Primitive.passwordLine user password)] := by
  have hmade : (setPasswordSteps user password).IsMade := Plan.isMade_singleton .chpasswd
  rw [inputs?, setPassword, Plan.parse_text_command hmade]
  cases s.elevationPolicy with
  | alreadyRoot => rfl
  | viaSudo secret => rfl

variable {user : String}

theorem splitOn_passwordLine (hline : '\n' ∉ user.toList) {password first : String}
    {further : List String} (h : Text.splitOn '\n' password = first :: further) :
    Text.splitOn '\n' (Primitive.passwordLine user password) =
      (user ++ ":" ++ first) :: further := by
  obtain ⟨p, ps, hpieces, hfirst, hfurther⟩ := List.map_eq_cons_iff.mp h
  have htext : (Primitive.passwordLine user password).toList =
      (user.toList ++ [':']) ++ password.toList := by simp [Primitive.passwordLine]
  have hfront : '\n' ∉ user.toList ++ [':'] := by simp [hline]
  rw [Text.splitOn, htext, Text.pieces_append_of_not_mem hfront _ hpieces, List.map_cons, hfurther,
    ← hfirst]
  simp [String.append_assoc]

/-- The first line of the password is set for the account, and every further line is a record of its
own. -/
theorem passwordRecords?_echoed (hline : '\n' ∉ user.toList) (hcolon : ':' ∉ user.toList)
    {password first : String} {further : List String}
    (h : Text.splitOn '\n' password = first :: further) :
    passwordRecords? (echoed (Primitive.passwordLine user password)) =
      (further.mapM (Text.splitFirst? ':')).map ((user, first) :: ·) := by
  have hrecord : Text.splitFirst? ':' (user ++ ":" ++ first) = some (user, first) :=
    Text.splitFirst?_eq_some_iff.mpr ⟨rfl, hcolon⟩
  rw [passwordRecords?, inputLines_echoed, splitOn_passwordLine hline h, List.mapM_cons, hrecord]
  cases further.mapM (Text.splitFirst? ':') <;> rfl

/-- What `chpasswd` reads when a password is set is one record, that of the account with its
password, exactly if the password holds no line feed. -/
theorem passwordRecords?_setPassword_iff (s : Settings) {field : String}
    (hname : checkName field user = .ok ()) (password : String) :
    ∃ input, inputs? "chpasswd" (setPassword s user password).text = some [input] ∧
      (passwordRecords? input = some [(user, password)] ↔ '\n' ∉ password.toList) := by
  refine ⟨_, inputs?_setPassword s user password, ?_⟩
  have hline : '\n' ∉ user.toList := not_mem_of_checkName hname (by decide) (by decide)
  have hcolon : ':' ∉ user.toList := not_mem_of_checkName hname (by decide) (by decide)
  obtain ⟨first, further, hpieces⟩ := List.exists_cons_of_ne_nil
    (Text.pieces_ne_nil '\n' password.toList)
  have hsplit : Text.splitOn '\n' password = String.ofList first :: further.map String.ofList := by
    rw [Text.splitOn, hpieces, List.map_cons]
  rw [passwordRecords?_echoed hline hcolon hsplit]
  constructor
  · intro hrecords
    obtain ⟨records, hfurther, hcons⟩ := Option.map_eq_some_iff.mp hrecords
    obtain rfl := (List.cons.inj hcons).2
    have hnone : further = [] := List.map_eq_nil_iff.mp (eq_nil_of_mapM_eq_nil hfurther)
    rw [hnone] at hpieces
    exact Text.not_mem_of_pieces_eq_singleton hpieces
  · intro hfeed
    rw [Text.pieces_of_not_mem hfeed] at hpieces
    obtain ⟨rfl, rfl⟩ := List.cons.inj hpieces
    simp

theorem passwordRecords?_setPassword_ordinary :
    ∃ input, inputs? "chpasswd" (setPassword ordinarySettings "svc1" "pw123").text = some [input] ∧
      passwordRecords? input = some [("svc1", "pw123")] := by
  have hname : checkName "username" "svc1" = .ok () := rfl
  obtain ⟨input, hinput, hrecords⟩ :=
    passwordRecords?_setPassword_iff ordinarySettings hname "pw123"
  exact ⟨input, hinput, hrecords.mpr (by decide)⟩

/-- A password that goes on with a record for another account. -/
def doublePassword : String :=
  "pw\nroot:owned"

/-- The account `svc1` with that password. -/
def doubleAttributes : AttributeSet :=
  .ofList [⟨AttributeName.name, [.text "svc1"]⟩, ⟨AttributeName.password, [.secret doublePassword]⟩]

/-- An account can be created with it, and then two passwords are set. -/
theorem not_passwordRecords?_setPassword :
    ¬ ∀ (s : Settings) (attributes : AttributeSet) (c : Provision.AccountCreation)
      (password : String) (command : RemoteCommand), s.check = .ok () →
      Provision.composeAccount s attributes = .ok c → c.password = some command →
      attributes.secret? AttributeName.password = some password →
      ∃ input, inputs? "chpasswd" command.text = some [input] ∧
        passwordRecords? input = some [(c.username, password)] := by
  intro h
  obtain ⟨input, hinput, hrecords⟩ := h ordinarySettings doubleAttributes _ doublePassword
    (setPassword ordinarySettings "svc1" doublePassword) rfl rfl rfl rfl
  rw [inputs?_setPassword] at hinput
  obtain rfl := (List.cons.inj (Option.some.inj hinput)).1
  have htwo : passwordRecords? (echoed (Primitive.passwordLine "svc1" doublePassword)) =
      some [("svc1", "pw"), ("root", "owned")] := by decide
  rw [htwo] at hrecords
  exact absurd (congrArg (Option.map List.length) hrecords) (by decide)

end Recipe

end HostAccounts
