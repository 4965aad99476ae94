import HostAccounts.Proofs.Attribute
import HostAccounts.Proofs.Database.ShadowRow
import HostAccounts.Proofs.Recipe.Reading
import HostAccounts.Proofs.Session.Errand
import HostAccounts.Provision.Search

/-!
# Statuses that are written back

What becomes of an account when the status that a search reported for it is written back. It is
locked or not as before, and an end that has come stays, and so does that there is none. An end that
is still to come is taken away: the account is reported to be enabled, and to enable an account is
to take its end away. Main statements: `activation?_of_reports`, and `yields_addStatus_writtenBack`
for what a search added to an account.
-/

set_option autoImplicit false

namespace HostAccounts

open Database (AccountStatus ShadowRow)

/-! ## What is reported -/

namespace Database.AccountStatus

/-- The attributes that tell a status. -/
def attributes (status : AccountStatus) : List Attribute :=
  ⟨AttributeName.enable, [.flag status.enabled]⟩ ::
    ⟨AttributeName.lockOut, [.flag status.locked]⟩ ::
      status.disableDate.toList.map fun d => ⟨AttributeName.disableDate, [.text d.written]⟩

end Database.AccountStatus

namespace AttributeSet

/-- The attributes tell the status, whatever else they tell. -/
structure Reports (a : AttributeSet) (status : AccountStatus) : Prop where
  enable : a.entry? AttributeName.enable = some ⟨AttributeName.enable, [.flag status.enabled]⟩
  lockOut : a.entry? AttributeName.lockOut = some ⟨AttributeName.lockOut, [.flag status.locked]⟩
  disableDate : a.entry? AttributeName.disableDate =
    status.disableDate.map fun d => ⟨AttributeName.disableDate, [.text d.written]⟩

/-- Attributes that told of no end tell the status once it was added. -/
theorem reports_foldl_insert {a : AttributeSet} (h : a.entry? AttributeName.disableDate = none)
    (status : AccountStatus) : (status.attributes.foldl insert a).Reports status := by
  obtain ⟨locked, enabled, disableDate⟩ := status
  have hlock : Text.sameIgnoringCase AttributeName.lockOut AttributeName.enable = false := by decide
  have hdate : ∀ name ∈ [AttributeName.enable, AttributeName.lockOut],
      Text.sameIgnoringCase AttributeName.disableDate name = false := by decide
  have hother : ∀ name ∈ [AttributeName.enable, AttributeName.lockOut],
      Text.sameIgnoringCase name AttributeName.disableDate = false := by decide
  cases disableDate with
  | none =>
    constructor
    · exact (entry?_insert_of_ne _ _ hlock).trans (entry?_insert_self a _ _)
    · exact entry?_insert_self _ _ _
    · exact ((entry?_insert_of_ne _ _ (hother _ (by simp))).trans
        (entry?_insert_of_ne a _ (hother _ (by simp)))).trans h
  | some d =>
    constructor
    · exact ((entry?_insert_of_ne _ _ (hdate _ (by simp))).trans
        (entry?_insert_of_ne _ _ hlock)).trans (entry?_insert_self a _ _)
    · exact (entry?_insert_of_ne _ _ (hdate _ (by simp))).trans (entry?_insert_self _ _ _)
    · exact entry?_insert_self _ _ _

theorem flag?_of_entry? {a : AttributeSet} {name spelled : String} {b : Bool}
    (h : a.entry? name = some ⟨spelled, [.flag b]⟩) : a.flag? name = some b := by
  have hvalues := a.says_entry? name
  rw [h] at hvalues
  exact hvalues.flag

theorem text?_of_entry? {a : AttributeSet} {name spelled value : String}
    (h : a.entry? name = some ⟨spelled, [.text value]⟩) (hvalue : Text.isBlankText value = false) :
    a.text? name = some value := by
  have hvalues := a.says_entry? name
  rw [h] at hvalues
  rw [hvalues.text]
  simp [Value.text?, hvalue]

end AttributeSet

namespace Procedure

theorem yields_ofExcept {ε α : Type} (toFault : ε → Fault) (x : Except ε α) :
    (ofExcept toFault x).Yields (fun _ _ => True) fun es a => es = [] ∧ x = .ok a := by
  intro σ peer s
  cases x with
  | error e => trivial
  | ok a => exact ⟨rfl, rfl⟩

theorem yields_request {r : Request} (h : r.IsSilent) :
    (request r).Yields (fun _ _ => True) fun es _ => es = [] := by
  intro σ peer s
  exact (Dialogue.sendsNothing_request h).exchanges_eq_nil peer s

end Procedure

namespace Provision

open Procedure Session

/-- The account with the status of the row in the first line that is not blank; without such a line
it is as before. -/
def IsWithStatus (output : String) (o o' : ManagedObject) : Prop :=
  match (Text.lines output).find? fun l => !Text.isBlankText l with
  | none => o' = o
  | some line => ∃ row today, ShadowRow.ofLine line = .ok row ∧
      o'.attributes = (row.status today).attributes.foldl AttributeSet.insert o.attributes

theorem yields_addStatus (s : Settings) (o : ManagedObject) :
    (addStatus s o).Yields (fun _ _ => True) fun es o' =>
      ∃ output, es = [⟨Recipe.readStatus s o.name, .read, .ok output⟩] ∧
        IsWithStatus output o o' := by
  unfold addStatus
  refine Yields.bind ((yields_read _ _).imp (fun _ _ _ => trivial) fun _ _ h => h)
    fun es output hread => ?_
  obtain ⟨rfl, -⟩ := hread
  split
  · next hnone =>
    refine yields_pure ⟨output, rfl, ?_⟩
    rw [IsWithStatus, hnone]
  · next line hline =>
    refine Yields.bind (yields_ofExcept _ _) fun es row hrow => ?_
    obtain ⟨rfl, hrow⟩ := hrow
    refine Yields.bind (yields_request fun _ => rfl) fun es today hes => ?_
    obtain rfl : es = [] := hes
    have hstatus : ∀ o' : ManagedObject, o'.attributes =
        (row.status today).attributes.foldl AttributeSet.insert o.attributes →
          IsWithStatus output o o' := by
      intro o' ho'
      rw [IsWithStatus, hline]
      exact ⟨row, today, hrow, ho'⟩
    dsimp only
    split
    · next d hd =>
      refine yields_pure ⟨output, rfl, hstatus _ ?_⟩
      rw [AccountStatus.attributes, hd]
      rfl
    · next hd =>
      refine yields_pure ⟨output, rfl, hstatus _ ?_⟩
      rw [AccountStatus.attributes, hd]
      rfl

end Provision

/-! ## What the host keeps -/

/-- What the shadow database holds on the use of an account: whether its password is locked, and the
field of its end. -/
structure ShadowEntry where
  locked : Bool
  expiry : String
  deriving DecidableEq, Repr

namespace ShadowEntry

/-- What is stored for an end: the day number of a date, and nothing for the empty text. -/
def stored? (date : String) : Option String :=
  if date.isEmpty then some "" else (Date.ofWritten? date).map fun d => toString d.dayNumber

/-- The entry of the account after a command that is not led by `sudo`. -/
def afterCommand? (user : String) (entry : ShadowEntry) : List String → Option ShadowEntry
  | ["echo", _] => some entry
  | ["usermod", "-L", account] =>
    if account = user then some { entry with locked := true } else none
  | ["usermod", "-U", account] =>
    if account = user then some { entry with locked := false } else none
  | ["usermod", "-e", date, account] =>
    if account = user then (stored? date).map fun field => { entry with expiry := field } else none
  | _ => none

/-- The entry of the account after a command, led by `sudo` or not. The priming leaves it alone. -/
def afterWords? (user : String) (entry : ShadowEntry) : List String → Option ShadowEntry
  | ["sudo", "-k"] | ["sudo", "-S", "-p", "", "-v"] => some entry
  | "sudo" :: words => afterCommand? user entry words
  | words => afterCommand? user entry words

/-- The entry of the account after the commands of a text, if they are ones on its use. -/
def after? (user text : String) (entry : ShadowEntry) : Option ShadowEntry :=
  (Shell.parse text).bind fun p =>
    p.flatten.foldlM (fun entry c => afterWords? user entry c.arguments) entry

/-- A command on the use of the account does the same, whether it is led by `sudo` or not. -/
theorem afterWords?_root {root : List String} (hroot : root = [] ∨ root = ["sudo"]) (user : String)
    (entry : ShadowEntry) (option : String) (rest : List String) :
    afterWords? user entry (root ++ "usermod" :: option :: rest) =
      afterCommand? user entry ("usermod" :: option :: rest) := by
  rcases hroot with rfl | rfl <;> rfl

/-- Whatever was kept, the two commands decide what is kept of the use of the account. -/
theorem foldlM_commands {root : List String} (hroot : root = [] ∨ root = ["sudo"])
    (user date : String) (locked : Bool) (entry : ShadowEntry) :
    [Shell.SimpleCommand.mk (root ++ ["usermod", "-e", date, user]) [],
        Shell.SimpleCommand.mk (root ++ ["usermod", if locked then "-L" else "-U", user]) []].foldlM
      (fun entry c => afterWords? user entry c.arguments) entry =
        (stored? date).map fun field => ⟨locked, field⟩ := by
  have hexpire : ∀ entry, afterWords? user entry (root ++ ["usermod", "-e", date, user]) =
      (stored? date).map fun field => { entry with expiry := field } := by
    intro entry
    rw [afterWords?_root hroot, afterCommand?, if_pos rfl]
  have hlock : ∀ entry, afterWords? user entry
      (root ++ ["usermod", if locked then "-L" else "-U", user]) =
        some { entry with locked := locked } := by
    intro entry
    rw [afterWords?_root hroot]
    cases locked with
    | false => exact if_pos rfl
    | true => exact if_pos rfl
  rw [List.foldlM_cons, hexpire]
  cases stored? date with
  | none => rfl
  | some field =>
    rw [Option.map_some, Option.bind_eq_bind, Option.bind_some, List.foldlM_cons, hlock]
    rfl

/-- The steps that set the end of an account, and then lock or unlock it. -/
def useSteps (user date : String) (locked : Bool) : Plan :=
  [.run (Primitive.expire user date),
    .run (if locked then Primitive.lock user else Primitive.unlock user)]

/-- The commands that set the end and the lock do so, whatever the elevation. -/
theorem after?_useSteps (e : Elevation) (user date : String) (locked : Bool)
    (entry : ShadowEntry) :
    after? user (Plan.command e (useSteps user date locked)).text entry =
      (stored? date).map fun field => ⟨locked, field⟩ := by
  have hmade : Plan.IsMade (useSteps user date locked) := by
    refine .cons (.expire _ _) (Plan.isMade_singleton ?_)
    cases locked with
    | false => exact .unlock user
    | true => exact .lock user
  have hlock : (if locked then Primitive.lock user else Primitive.unlock user).meaning =
      [⟨["usermod", if locked then "-L" else "-U", user], []⟩] := by
    cases locked <;> exact Shell.meaning_ofWords _
  have hlines : ∀ root : List String, (useSteps user date locked).map (Intent.commandLine root) =
        [[⟨root ++ ["usermod", "-e", date, user], []⟩],
          [⟨root ++ ["usermod", if locked then "-L" else "-U", user], []⟩]] := by
    intro root
    rw [useSteps, List.map_cons, List.map_cons, List.map_nil, Intent.commandLine,
      Intent.commandLine, hlock, Primitive.expire, Shell.meaning_ofWords]
    rfl
  rw [after?, Plan.parse_text_command hmade, Option.bind_some]
  cases e with
  | alreadyRoot =>
    rw [Plan.program, hlines]
    exact foldlM_commands (.inl rfl) user date locked entry
  | viaSudo secret =>
    have hprimed : (useSteps user date locked).program (.viaSudo secret) =
        primingProgram (secret.getD "") ++
          (useSteps user date locked).map (Intent.commandLine ["sudo"]) := rfl
    rw [hprimed, hlines, List.flatten_append, List.foldlM_append]
    exact foldlM_commands (.inr rfl) user date locked entry

end ShadowEntry

/-! ## What is written back -/

theorem Date.written_ne_blank (d : Date) : Text.isBlankText d.written = false := by
  have hhyphen : Text.isBlank '-' = false := by decide
  simp [Text.isBlankText, Date.toList_written, hhyphen]

theorem ShadowEntry.stored?_written (d : Date) :
    stored? d.written = some (toString d.dayNumber) := by
  have hwritten : d.written.isEmpty = false := by
    have hne : d.written.toList ≠ [] := by simp [Date.toList_written]
    simpa using hne
  rw [stored?, hwritten, Date.ofWritten?_written]
  rfl

namespace Recipe

open ShadowEntry (after? after?_useSteps stored?_written useSteps)

/-- The text of the end that is written back: an end that has come, and none that has not. -/
def endWrittenBack (e : Expiry) (today : Date) : String :=
  match e with
  | .never => ""
  | .on d => if d.isOnOrBefore today then d.written else ""

/-- Where no end has come, none is written back. -/
theorem endWrittenBack_of_coming {e : Expiry} {today : Date} (h : e.hasPassed today = false) :
    endWrittenBack e today = "" := by
  cases e with
  | never => rfl
  | on d => exact if_neg (Bool.eq_false_iff.mp h)

/-- An end that has come is written back as its date. -/
theorem exists_endWrittenBack_of_passed {e : Expiry} {today : Date}
    (h : e.hasPassed today = true) : ∃ d, e = .on d ∧ endWrittenBack e today = d.written := by
  cases e with
  | never => cases h
  | on d => exact ⟨d, rfl, if_pos h⟩

theorem expirySteps_of_reports (s : Settings) (user : String) {row : ShadowRow} {today : Date}
    {a : AttributeSet} (h : a.Reports (row.status today)) :
    expirySteps s user a =
      .ok [.run (Primitive.expire user (endWrittenBack row.expiry today))] := by
  have henable : a.flag? AttributeName.enable = some (!row.expiry.hasPassed today) :=
    AttributeSet.flag?_of_entry? h.enable
  simp only [expirySteps, henable]
  cases hpassed : row.expiry.hasPassed today with
  | false =>
    rw [endWrittenBack_of_coming hpassed]
    rfl
  | true =>
    obtain ⟨d, hd, hback⟩ := exists_endWrittenBack_of_passed hpassed
    have hentry : a.entry? AttributeName.disableDate =
        some ⟨AttributeName.disableDate, [.text d.written]⟩ := by
      rw [h.disableDate, ShadowRow.status, hd]
      rfl
    have htext := AttributeSet.text?_of_entry? hentry d.written_ne_blank
    simp only [Bool.not_true, disableDate, htext, Date.ofRequest_written, hback]
    rfl

theorem lockSteps_of_reports (user : String) {row : ShadowRow} {today : Date} {a : AttributeSet}
    (h : a.Reports (row.status today)) :
    lockSteps user a =
      [.run (if row.locked then Primitive.lock user else Primitive.unlock user)] := by
  rw [lockSteps, AttributeSet.flag?_of_entry? h.lockOut, ShadowRow.status]
  cases row.locked <;> rfl

/-- To write a status back is to set the end and the lock, whatever else the attributes tell. -/
theorem activationSteps_of_reports (s : Settings) (user : String) {row : ShadowRow} {today : Date}
    {a : AttributeSet} (h : a.Reports (row.status today)) :
    activationSteps s user a =
      .ok (useSteps user (endWrittenBack row.expiry today) row.locked) := by
  rw [activationSteps, expirySteps_of_reports s user h, lockSteps_of_reports user h]
  rfl

/-- The end in a row was read from a field. -/
theorem exists_field_of_ofLine {line : String} {row : ShadowRow}
    (h : ShadowRow.ofLine line = .ok row) : ∃ field, Expiry.ofField field = .ok row.expiry := by
  obtain ⟨f, hf⟩ := ShadowRow.exists_standIn_of_ofLine h
  have hread := (ShadowRow.ofLine_eq_ok_iff hf).mp h
  exact ⟨f.expiry, Database.ofField_eq_ok_iff.mpr hread.expiry⟩

/-- What is stored for the end that is written back is that end again, if it is not still to
come. -/
theorem exists_stored_endWrittenBack {e : Expiry} {field : String}
    (h : Expiry.ofField field = .ok e) (today : Date) :
    ∃ stored, ShadowEntry.stored? (endWrittenBack e today) = some stored ∧
      Expiry.ofField stored = .ok (if e.hasPassed today then e else .never) := by
  cases hpassed : e.hasPassed today with
  | false =>
    rw [endWrittenBack_of_coming hpassed]
    exact ⟨"", rfl, rfl⟩
  | true =>
    obtain ⟨d, rfl, hback⟩ := exists_endWrittenBack_of_passed hpassed
    rw [hback]
    exact ⟨_, stored?_written d, Expiry.ofField_toString h⟩

/-- The command that writes the status of a row back, which depends on nothing else that the
attributes tell. -/
theorem activation?_eq_of_reports (s : Settings) (user : String) {row : ShadowRow} {today : Date}
    {a : AttributeSet} (h : a.Reports (row.status today)) :
    activation? s user a = .ok (some
      ((useSteps user (endWrittenBack row.expiry today) row.locked).command
        s.elevationPolicy)) := by
  have hne : useSteps user (endWrittenBack row.expiry today) row.locked ≠ [] :=
    List.cons_ne_nil _ _
  rw [activation?, activationSteps_of_reports s user h, ← Plan.command?_of_ne_nil hne]
  rfl

/-- What that command leaves behind, whatever was kept before it. -/
theorem exists_after?_writtenBack {line : String} {row : ShadowRow}
    (hrow : ShadowRow.ofLine line = .ok row) (today : Date) (e : Elevation) (user : String)
    (entry : ShadowEntry) :
    ∃ entry', after? user ((useSteps user (endWrittenBack row.expiry today) row.locked).command
        e).text entry = some entry' ∧
      entry'.locked = row.locked ∧
      Expiry.ofField entry'.expiry =
        .ok (if row.expiry.hasPassed today then row.expiry else .never) := by
  obtain ⟨field, hfield⟩ := exists_field_of_ofLine hrow
  obtain ⟨stored, hstored, hend⟩ := exists_stored_endWrittenBack hfield today
  refine ⟨⟨row.locked, stored⟩, ?_, rfl, hend⟩
  rw [after?_useSteps, hstored, Option.map_some]

/-- To write back the status that was reported for a row locks or unlocks the account as it was. An
end that has come stays, and so does that there is none; one that is still to come is taken away. -/
theorem activation?_of_reports (s : Settings) (user : String) {line : String} {row : ShadowRow}
    (hrow : ShadowRow.ofLine line = .ok row) (today : Date) {a : AttributeSet}
    (h : a.Reports (row.status today)) :
    ∃ command, activation? s user a = .ok (some command) ∧
      ∀ entry : ShadowEntry, ∃ entry', after? user command.text entry = some entry' ∧
        entry'.locked = row.locked ∧
        Expiry.ofField entry'.expiry =
          .ok (if row.expiry.hasPassed today then row.expiry else .never) := by
  refine ⟨(useSteps user (endWrittenBack row.expiry today) row.locked).command s.elevationPolicy,
    activation?_eq_of_reports s user h, fun entry => ?_⟩
  exact exists_after?_writtenBack hrow today s.elevationPolicy user entry

/-- A day on which statuses are reported. -/
def reportDay : Date :=
  ⟨2024, 1, 1, by decide⟩

/-- A locked account that ended long before, on the day 19000. -/
def endedRow : ShadowRow where
  username := "svc1"
  locked := true
  lastChange := some 18000
  minDays := some 0
  maxDays := some 99999
  warnDays := some 7
  inactiveDays := none
  expiry := .on ⟨2022, 1, 8, by decide⟩

theorem activation?_of_reports_ended :
    ∃ command, activation? {} "svc1"
        ((endedRow.status reportDay).attributes.foldl AttributeSet.insert .empty) =
          .ok (some command) ∧
      ∀ entry : ShadowEntry, ∃ entry', after? "svc1" command.text entry = some entry' ∧
        entry'.locked = true ∧
        Expiry.ofField entry'.expiry = .ok (.on ⟨2022, 1, 8, by decide⟩) := by
  have hrow : ShadowRow.ofLine "svc1:!$6$abc:18000:0:99999:7::19000:" = .ok endedRow := by
    decide +kernel
  exact activation?_of_reports {} "svc1" hrow reportDay (AttributeSet.reports_foldl_insert rfl _)

/-- An account that is to end long after. -/
def endingRow : ShadowRow where
  username := "svc1"
  locked := false
  lastChange := some 18000
  minDays := some 0
  maxDays := some 99999
  warnDays := some 7
  inactiveDays := none
  expiry := .on ⟨2999, 1, 1, by decide⟩

/-- Its end is taken away when its status is written back. -/
theorem not_activation?_keeps_end :
    ¬ ∀ (s : Settings) (user line : String) (row : ShadowRow) (today : Date) (a : AttributeSet),
      ShadowRow.ofLine line = .ok row → a.Reports (row.status today) →
      ∃ command, activation? s user a = .ok (some command) ∧
        ∀ entry : ShadowEntry, ∃ entry', after? user command.text entry = some entry' ∧
          entry'.locked = row.locked ∧ Expiry.ofField entry'.expiry = .ok row.expiry := by
  intro h
  have hrow : ShadowRow.ofLine "svc1:$6$abc:18000:0:99999:7::375835:" = .ok endingRow := by
    decide +kernel
  have hreports := AttributeSet.reports_foldl_insert (a := .empty) rfl (endingRow.status reportDay)
  obtain ⟨command, hcommand, hafter⟩ := h {} "svc1" _ _ reportDay _ hrow hreports
  have hback : endWrittenBack endingRow.expiry reportDay = "" := by decide +kernel
  rw [activation?_eq_of_reports _ "svc1" hreports, hback] at hcommand
  obtain rfl : (useSteps "svc1" "" false).command ({} : Settings).elevationPolicy = command :=
    Option.some.inj (Except.ok.inj hcommand)
  obtain ⟨entry', hentry, -, hend⟩ := hafter ⟨false, ""⟩
  rw [after?_useSteps] at hentry
  obtain rfl : (⟨false, ""⟩ : ShadowEntry) = entry' := Option.some.inj hentry
  cases hend

/-! ## From a search to the command -/

/-- What a search adds to an account is the status in its shadow record, if there is one. To write
back what the account then tells keeps the lock, and the end unless that is still to come. -/
theorem yields_addStatus_writtenBack (s : Settings) (user : String) {o : ManagedObject}
    (ho : o.attributes.entry? AttributeName.disableDate = none) :
    (Provision.addStatus s o).Yields (fun _ _ => True) fun es o' =>
      ∃ output, es = [⟨readStatus s o.name, .read, .ok output⟩] ∧
        ((∀ line ∈ Text.lines output, Text.isBlankText line = true) ∧ o' = o ∨
          ∃ line ∈ Text.lines output, ∃ row today, ShadowRow.ofLine line = .ok row ∧
            o'.attributes.Reports (row.status today) ∧
            ∃ command, activation? s user o'.attributes = .ok (some command) ∧
              ∀ entry : ShadowEntry, ∃ entry', after? user command.text entry = some entry' ∧
                entry'.locked = row.locked ∧
                Expiry.ofField entry'.expiry =
                  .ok (if row.expiry.hasPassed today then row.expiry else .never)) := by
  refine (Provision.yields_addStatus s o).imp (fun _ _ h => h) fun es o' hadded => ?_
  obtain ⟨output, hes, hstatus⟩ := hadded
  refine ⟨output, hes, ?_⟩
  unfold Provision.IsWithStatus at hstatus
  split at hstatus
  · next hnone => exact .inl ⟨by simpa using hnone, hstatus⟩
  · next line hline =>
    obtain ⟨row, today, hrow, hattributes⟩ := hstatus
    have hreports : o'.attributes.Reports (row.status today) := by
      rw [hattributes]
      exact AttributeSet.reports_foldl_insert ho (row.status today)
    refine .inr ⟨line, List.mem_of_find?_eq_some hline, row, today, hrow, hreports, _,
      activation?_eq_of_reports s user hreports, fun entry => ?_⟩
    exact exists_after?_writtenBack hrow today s.elevationPolicy user entry

end Recipe

end HostAccounts
