import HostAccounts.Proofs.Attribute
import HostAccounts.Proofs.Calendar.DayCount
import HostAccounts.Proofs.Recipe.Reading

/-!
# The ends of accounts

Which ends the commands for the use of an account set: the dates behind `usermod -e`, where the
empty text takes an end away. Nobody but who disables an account should give it an end that was not
asked for, and to disable an account should never be to take its end away. Both come down to the end
in the settings: it also stands in for a blank date that was given, and it is not checked to be a
date. Main statements: `Recipe.ends_as_asked_iff`, `Recipe.disables_iff`.
-/

set_option autoImplicit false

namespace HostAccounts

open Shell (CommandLine Program SimpleCommand)

/-! ## Ends in a text -/

/-- The end that a command gives to an account; the empty text takes it away. -/
structure Ending where
  account : String
  date : String
  deriving DecidableEq, Repr

namespace Ending

/-- The end that a command sets that is not led by `sudo`. -/
def ofCommand? : List String → Option Ending
  | ["usermod", "-e", date, account] => some ⟨account, date⟩
  | _ => none

/-- The end that a command sets, led by `sudo` or not. -/
def ofWords? : List String → Option Ending
  | "sudo" :: words => ofCommand? words
  | words => ofCommand? words

/-- The ends that commands set, one after the other. -/
def ofCommands (cs : List SimpleCommand) : List Ending :=
  cs.filterMap fun c => ofWords? c.arguments

theorem ofCommands_append (cs ds : List SimpleCommand) :
    ofCommands (cs ++ ds) = ofCommands cs ++ ofCommands ds :=
  List.filterMap_append

theorem ofWords?_root {root : List String} (hroot : root = [] ∨ root = ["sudo"])
    (rest : List String) :
    ofWords? (root ++ "usermod" :: rest) = ofCommand? ("usermod" :: rest) := by
  rcases hroot with rfl | rfl <;> rfl

end Ending

/-- The ends that the text of a command sets. -/
def endingsIn? (text : String) : Option (List Ending) :=
  (Shell.parse text).map fun p => Ending.ofCommands p.flatten

/-- The ends that a command sets, if there is one to send. -/
def endingsOf? (command : Option RemoteCommand) : Option (List Ending) :=
  match command with
  | none => some []
  | some command => endingsIn? command.text

namespace Plan

/-- The plan sets the ends, whether it runs through `sudo` or not. -/
def Ends (p : Plan) (es : List Ending) : Prop :=
  ∀ root, root = [] ∨ root = ["sudo"] →
    Ending.ofCommands (p.flatMap (Intent.commandLine root)) = es

theorem ends_nil : Ends [] [] :=
  fun _ _ => rfl

theorem Ends.append {p q : Plan} {es fs : List Ending} (hp : p.Ends es) (hq : q.Ends fs) :
    Ends (p ++ q) (es ++ fs) := by
  intro root hroot
  rw [List.flatMap_append, Ending.ofCommands_append, hp root hroot, hq root hroot]

/-- A change of an account sets an end if it is that change. -/
theorem ends_usermod (rest : List String) :
    Ends [.run (.ofWords ("usermod" :: rest))] (Ending.ofCommand? ("usermod" :: rest)).toList := by
  intro root hroot
  have hwords := Ending.ofWords?_root hroot rest
  rw [List.flatMap_cons, List.flatMap_nil, List.append_nil, Intent.commandLine,
    Shell.meaning_ofWords]
  simp only [CommandLine.ledBy, Ending.ofCommands, List.filterMap_cons, List.filterMap_nil, hwords]
  cases Ending.ofCommand? ("usermod" :: rest) <;> rfl

/-- What is read of the command of a plan is what its steps set. -/
theorem Ends.endingsIn?_command {p : Plan} {es : List Ending} (h : p.Ends es) (hmade : p.IsMade)
    (e : Elevation) : endingsIn? (p.command e).text = some es := by
  rw [endingsIn?, parse_text_command hmade, Option.map_some,
    read_program Ending.ofCommands_append (fun _ => rfl) h]

theorem Ends.endingsOf?_command? {p : Plan} {es : List Ending} (h : p.Ends es) (hmade : p.IsMade)
    (e : Elevation) : endingsOf? (p.command? e) = some es := by
  by_cases hp : p = []
  · subst hp
    have hnone : es = [] := (h [] (.inl rfl)).symm
    rw [hnone]
    rfl
  · rw [command?_of_ne_nil hp]
    exact h.endingsIn?_command hmade e

end Plan

/-! ## The default end -/

/-- The settings with another end for accounts that are disabled without a date. -/
def Settings.withDefaultEnd (s : Settings) (date : String) : Settings :=
  { s with accounts := { s.accounts with disableDate := date } }

/-- The check of the settings does not look at the default end. -/
theorem Settings.check_withDefaultEnd (s : Settings) (date : String) :
    (s.withDefaultEnd date).check = s.check :=
  rfl

namespace Recipe

variable {s : Settings} {user date : String} {a : AttributeSet} {command : Option RemoteCommand}

/-! ## Ends that a request sets -/

theorem ends_lockSteps (user : String) (a : AttributeSet) : (lockSteps user a).Ends [] := by
  unfold lockSteps
  split
  · exact Plan.ends_usermod ["-L", user]
  · exact Plan.ends_usermod ["-U", user]
  · exact Plan.ends_nil

/-- A lock sets no end, so only the steps for the end count. -/
theorem endingsOf?_of_expirySteps {steps : Plan} {es : List Ending}
    (hsteps : expirySteps s user a = .ok steps) (hends : steps.Ends es)
    (h : activation? s user a = .ok command) : endingsOf? command = some es := by
  obtain ⟨p, hp, rfl⟩ := exists_of_map_eq_ok h
  have hmade := (accompanying_activationSteps hp).isMade
  rw [activationSteps, hsteps] at hp
  obtain rfl := Except.ok.inj hp
  have hall := hends.append (ends_lockSteps user a)
  rw [List.append_nil] at hall
  exact hall.endingsOf?_command? hmade s.elevationPolicy

/-- An account that is disabled gets the end that was worked out for it. -/
theorem exists_end_of_expire (hexpire : expirySteps s user a =
      (disableDate s a).map fun date => [Intent.run (Primitive.expire user date)])
    (h : activation? s user a = .ok command) :
    ∃ date, disableDate s a = .ok date ∧ endingsOf? command = some [⟨user, date⟩] := by
  cases hdate : disableDate s a with
  | error defect =>
    rw [hdate] at hexpire
    rw [activation?, activationSteps, hexpire] at h
    cases h
  | ok date =>
    rw [hdate] at hexpire
    exact ⟨date, rfl, endingsOf?_of_expirySteps hexpire (Plan.ends_usermod ["-e", date, user]) h⟩

/-- The end of an account that is to be disabled is the one that is asked for. -/
theorem disableDate_of_text? {v : String} (hv : a.text? AttributeName.disableDate = some v)
    (h : disableDate s a = .ok date) : ∃ d, Date.ofRequest v = .ok d ∧ date = d.written := by
  simp only [disableDate, hv] at h
  split at h
  · next d hd => exact ⟨d, hd, (Except.ok.inj h).symm⟩
  · cases h

/-- If none is asked for it is the one in the settings. -/
theorem disableDate_of_silent (hv : a.text? AttributeName.disableDate = none) :
    disableDate s a = .ok s.accounts.disableDate := by
  rw [disableDate, hv]

/-- The default end reaches a command only through the end that is set. -/
theorem activation?_withDefaultEnd
    (h : expirySteps (s.withDefaultEnd date) user a = expirySteps s user a) :
    activation? (s.withDefaultEnd date) user a = activation? s user a := by
  have hsteps : activationSteps (s.withDefaultEnd date) user a = activationSteps s user a := by
    rw [activationSteps, activationSteps, h]
  rw [activation?, activation?, hsteps]
  rfl

/-! ## Ends that were asked for -/

/-- A command gives ends to nobody but the account, and only such as the attributes ask for. -/
def EndsAsAsked (user : String) (a : AttributeSet) (command : Option RemoteCommand) : Prop :=
  ∃ es, endingsOf? command = some es ∧ ∀ e ∈ es, e.account = user ∧
    ∃ v ∈ a.texts AttributeName.disableDate, ∃ d, Date.ofRequest v = .ok d ∧ e.date = d.written

/-- Where nothing is said on whether the account may be used, it gets an end only if one was asked
for, and the default plays no part, exactly if the date is not supplied or its first text is not
blank. -/
theorem ends_as_asked_iff (henable : a.flag? AttributeName.enable = none)
    (h : activation? s user a = .ok command) :
    (EndsAsAsked user a command ∧
        ∀ date, activation? (s.withDefaultEnd date) user a = .ok command) ↔
      (a.isPresent AttributeName.disableDate = true →
        (a.text? AttributeName.disableDate).isSome = true) := by
  constructor
  · rintro ⟨-, hdefault⟩ hpresent
    -- A default that is used shows in the command, and so do two different ones.
    refine Option.isSome_iff_ne_none.mpr fun hv => ?_
    have hshown : ∀ date, endingsOf? command = some [⟨user, date⟩] := by
      intro date
      obtain ⟨date', hdate', hends⟩ := exists_end_of_expire (s := s.withDefaultEnd date)
        (by simp only [expirySteps, henable, hpresent, if_true]) (hdefault date)
      obtain rfl : date = date' := Except.ok.inj ((disableDate_of_silent hv).symm.trans hdate')
      exact hends
    have hsame := (hshown "").symm.trans (hshown "1970-01-02")
    simp at hsame
  · intro hasked
    cases hpresent : a.isPresent AttributeName.disableDate with
    | false =>
      have hsilent : ∀ s, expirySteps s user a = .ok [] := by
        intro s
        simp only [expirySteps, henable, hpresent, Bool.false_eq_true, if_false]
      have hnone := endingsOf?_of_expirySteps (hsilent s) Plan.ends_nil h
      refine ⟨⟨[], hnone, fun e he => absurd he List.not_mem_nil⟩, fun date => ?_⟩
      rw [activation?_withDefaultEnd ((hsilent _).trans (hsilent s).symm), h]
    | true =>
      obtain ⟨v, hv⟩ := Option.isSome_iff_exists.mp (hasked hpresent)
      obtain ⟨date, hdate, hends⟩ := exists_end_of_expire
        (by simp only [expirySteps, henable, hpresent, if_true]) h
      obtain ⟨d, hd, rfl⟩ := disableDate_of_text? hv hdate
      refine ⟨⟨_, hends, fun e he => ?_⟩, fun date => ?_⟩
      · obtain rfl := List.mem_singleton.mp he
        exact ⟨rfl, v, AttributeSet.mem_texts_of_text?_eq_some hv, d, hd, rfl⟩
      · have hsteps : expirySteps (s.withDefaultEnd date) user a = expirySteps s user a := by
          simp only [expirySteps, disableDate, hv]
        rw [activation?_withDefaultEnd hsteps, h]

/-- An account that is asked to end on a day, by its number. -/
def endOnDay : AttributeSet :=
  ⟨[⟨AttributeName.disableDate, [.text "19000"]⟩]⟩

/-- It gets that end and no other. -/
theorem ends_as_asked_iff_endOnDay :
    ∃ command, activation? {} "svc1" endOnDay = .ok command ∧
      EndsAsAsked "svc1" endOnDay command := by
  have hcommand : (activation? {} "svc1" endOnDay).toBool = true := by decide +kernel
  cases h : activation? {} "svc1" endOnDay with
  | error fault =>
    rw [h] at hcommand
    cases hcommand
  | ok command =>
    exact ⟨command, rfl, ((ends_as_asked_iff rfl h).mpr fun _ => by decide +kernel).1⟩

/-- An account that is given a blank date. -/
def endOnBlank : AttributeSet :=
  ⟨[⟨AttributeName.disableDate, [.text "  "]⟩]⟩

/-- A blank date is no end that was asked for, but it disables the account on the default date. -/
theorem not_ends_as_asked :
    ¬ ∀ (s : Settings) (user : String) (a : AttributeSet) (command : Option RemoteCommand),
      a.flag? AttributeName.enable = none → activation? s user a = .ok command →
      EndsAsAsked user a command ∧
        ∀ date, activation? (s.withDefaultEnd date) user a = .ok command := by
  intro hasked
  obtain ⟨command, h⟩ : ∃ command, activation? {} "svc1" endOnBlank = .ok command := ⟨_, rfl⟩
  obtain ⟨⟨es, hes, hall⟩, -⟩ := hasked {} "svc1" endOnBlank command rfl h
  obtain ⟨date, -, hends⟩ := exists_end_of_expire (by rfl) h
  obtain rfl : [⟨"svc1", date⟩] = es := Option.some.inj (hends.symm.trans hes)
  obtain ⟨-, v, hv, -⟩ := hall _ (List.mem_singleton_self _)
  have hnone : endOnBlank.texts AttributeName.disableDate = [] := by decide +kernel
  rw [hnone] at hv
  cases hv

/-! ## Accounts that are disabled -/

/-- A command gives the account an end on a date. -/
def Disables (user : String) (command : Option RemoteCommand) : Prop :=
  ∃ date d, endingsOf? command = some [⟨user, date⟩] ∧ Date.ofRequest date = .ok d

/-- The empty text is not the date of an end. -/
theorem not_disables_of_clear (h : endingsOf? command = some [⟨user, ""⟩]) :
    ¬ Disables user command := by
  rintro ⟨date, d, hends, hd⟩
  rw [h] at hends
  cases hends
  have hdefect : (Date.ofRequest "").toBool = false := by decide +kernel
  rw [hd] at hdefect
  cases hdefect

/-- To disable an account is to give it an end on a date exactly if the request names one or the
default is one; and it takes the end of the account away instead exactly if the request names none
and the default is empty. -/
theorem disables_iff (henable : a.flag? AttributeName.enable = some false)
    (h : activation? s user a = .ok command) :
    (Disables user command ↔ (a.text? AttributeName.disableDate).isSome = true ∨
        ∃ d, Date.ofRequest s.accounts.disableDate = .ok d) ∧
      (endingsOf? command = some [⟨user, ""⟩] ↔
        a.text? AttributeName.disableDate = none ∧ s.accounts.disableDate = "") := by
  obtain ⟨date, hdate, hends⟩ := exists_end_of_expire (by simp only [expirySteps, henable]) h
  cases hv : a.text? AttributeName.disableDate with
  | some v =>
    obtain ⟨d, -, rfl⟩ := disableDate_of_text? hv hdate
    have hdisables : Disables user command := ⟨_, d, hends, Date.ofRequest_written d⟩
    refine ⟨⟨fun _ => .inl rfl, fun _ => hdisables⟩, fun hclear => ?_, fun hsilent => ?_⟩
    · exact absurd hdisables (not_disables_of_clear hclear)
    · cases hsilent.1
  | none =>
    obtain rfl : s.accounts.disableDate = date :=
      Except.ok.inj ((disableDate_of_silent hv).symm.trans hdate)
    refine ⟨⟨?_, ?_⟩, ?_⟩
    · rintro ⟨date, d, hends', hd⟩
      rw [hends] at hends'
      cases hends'
      exact .inr ⟨d, hd⟩
    · rintro (hnone | ⟨d, hd⟩)
      · cases hnone
      · exact ⟨_, d, hends, hd⟩
    · simp [hends]

/-- An account that is to be disabled, on no date in particular. -/
def disabled : AttributeSet :=
  ⟨[⟨AttributeName.enable, [.flag false]⟩]⟩

/-- The default end of settings that say nothing about it is a date. -/
theorem disables_iff_disabled :
    ∃ command, activation? {} "svc1" disabled = .ok command ∧ Disables "svc1" command := by
  have hdefault : Date.ofRequest ({} : Settings).accounts.disableDate =
      .ok ⟨1970, 1, 2, by decide⟩ :=
    Date.ofRequest_eq_ok_iff.mpr (.inl (by decide +kernel))
  obtain ⟨command, h⟩ : ∃ command, activation? {} "svc1" disabled = .ok command := ⟨_, rfl⟩
  exact ⟨command, h, (disables_iff rfl h).1.mpr (.inr ⟨_, hdefault⟩)⟩

/-- Settings with an empty default end pass their check, and with them to disable an account is to
take its end away. -/
theorem not_disables :
    ¬ ∀ (s : Settings) (user : String) (a : AttributeSet) (command : Option RemoteCommand),
      s.check = .ok () → a.flag? AttributeName.enable = some false →
      activation? s user a = .ok command → Disables user command := by
  intro hdisables
  let s := Settings.withDefaultEnd { elevation := { root := true } } ""
  have hcheck : s.check = .ok () :=
    (Settings.check_withDefaultEnd _ _).trans (by decide +kernel)
  obtain ⟨command, h⟩ : ∃ command, activation? s "svc1" disabled = .ok command := ⟨_, rfl⟩
  obtain ⟨date, hdate, hclear⟩ := exists_end_of_expire (by rfl) h
  obtain rfl : "" = date := Except.ok.inj hdate
  exact not_disables_of_clear hclear (hdisables s "svc1" disabled command hcheck rfl h)

end Recipe

end HostAccounts
