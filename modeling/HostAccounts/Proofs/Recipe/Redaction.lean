import HostAccounts.Proofs.Principal
import HostAccounts.Proofs.Recipe.Call
import HostAccounts.Proofs.Shell.Masking
import Mathlib.Tactic.ByContra

/-!
# What a redacted password command shows

Secrets are masked one after the other in the same text, each as it is quoted. The sudo password
comes first; where its quoted form stands inside the quoted record of the account, it breaks the
record up, and the record is no longer found. Main statement: `redacted_setPassword`, which says
what is shown in either case.
-/

set_option autoImplicit false

namespace HostAccounts.Recipe

open Shell (IsPassed escapeQuotes escapeQuotes_cons mem_singleQuoted quoteLed
  replaced_singleQuoted_mid replaced_singleQuoted_of_not_mem replaced_singleQuoted_quoteLed
  replaced_singleQuoted_self singleQuote singleQuoted singleQuoted_eq singleQuoted_injective
  singleQuoted_ne_nil)
open Text (replaced replaced_cons replaced_part_append replaced_nil replaced_of_absent
  replaced_self suffix_back suffix_replaced exists_first_occurrence exists_countP_replaced
  eq_of_replaced_eq_self replaced_append_tail)

/-! ## What can be left of a record -/

/-- The quoted sudo password stands inside the quoted record: masking it breaks up the record. -/
def Exposed (secret record : String) : Prop :=
  (singleQuote secret).toList <:+: (singleQuote record).toList ∧ secret ≠ record ∧
    secret ≠ "********"

instance (secret record : String) : Decidable (Exposed secret record) :=
  inferInstanceAs (Decidable (_ ∧ _ ∧ _))

theorem exposed_iff {secret record : String} :
    Exposed secret record ↔ singleQuoted secret.toList <:+: singleQuoted record.toList ∧
      secret.toList ≠ record.toList ∧ secret.toList ≠ "********".toList := by
  rw [Exposed, singleQuote, singleQuote, String.toList_ofList, String.toList_ofList, ne_eq, ne_eq,
    ne_eq, ne_eq, String.toList_inj, String.toList_inj]

/-- The quoted record with the quoted sudo password masked. -/
def residue (secret record : String) : String :=
  Text.replaceAll (singleQuote secret) Script.mask (singleQuote record)

theorem toList_residue (secret record : String) :
    (residue secret record).toList =
      replaced (singleQuoted secret.toList) Script.mask.toList (singleQuoted record.toList) := by
  rw [residue, Text.toList_replaceAll, singleQuote, singleQuote, String.toList_ofList,
    String.toList_ofList]

/-- What stands in place of the quoted record. -/
def shownRecord (secret record : String) : String :=
  if Exposed secret record then residue secret record else Script.mask

/-- What stands between the masked sudo password and the record. A password that reads like the
text between the two takes the quotes at its ends for its own. -/
def shownBetween (secret : String) : String :=
  " | sudo -S -p '" ++ if secret = " -v; echo " then "'********" else "' -v; echo "

/-- What matters about a record: it begins like a name and holds a colon. -/
structure IsRecord (record : List Char) : Prop where
  colon : ':' ∈ record
  start : ∃ c rest, record = c :: rest ∧ c ≠ '\'' ∧ c ≠ '\\' ∧ c ≠ ' '

/-! ## Masking the sudo password -/

section

variable {secret record : List Char}

/-- The mask reads as a quoted text itself. -/
theorem toList_mask : Script.mask.toList = singleQuoted "********".toList := by
  decide

/-- What is left of a record is led by a quote that is not part of an escaped one. -/
theorem exists_residue (h : IsRecord record) (secret : List Char) :
    ∃ rest, replaced (singleQuoted secret) Script.mask.toList (singleQuoted record) =
      '\'' :: rest ∧ rest.head? ≠ some '\\' := by
  by_cases hfront : singleQuoted secret <+: singleQuoted record
  · obtain ⟨back, hback⟩ := hfront
    rw [← hback, replaced_part_append (singleQuoted_ne_nil secret), toList_mask,
      singleQuoted_eq (by decide)]
    exact ⟨_, rfl, by simp⟩
  · obtain ⟨c, rest, rfl, hquote, hbackslash, -⟩ := h.start
    have hc : ¬ singleQuoted secret <+: c :: (escapeQuotes rest ++ ['\'']) := fun hp =>
      hquote (List.cons_prefix_cons.mp hp).1.symm
    refine ⟨_, replaced_cons hfront, ?_⟩
    rw [escapeQuotes_cons hquote, List.cons_append, replaced_cons hc]
    simpa using hbackslash

theorem isPassed_nil (hsecret : secret ≠ []) : IsPassed secret [] :=
  ⟨List.not_mem_nil, by simp, hsecret⟩

theorem toList_between :
    " | sudo -S -p '' -v; echo ".toList =
      " | sudo -S -p ".toList ++ quoteLed [[], " -v; echo ".toList] := by
  decide

/-- What stands behind the priming is passed over, up to the record. -/
theorem replaced_between (hsecret : secret ≠ []) (hother : secret ≠ " -v; echo ".toList)
    (h : IsRecord record) :
    replaced (singleQuoted secret) Script.mask.toList
        (" | sudo -S -p '' -v; echo ".toList ++ singleQuoted record) =
      " | sudo -S -p '' -v; echo ".toList ++
        replaced (singleQuoted secret) Script.mask.toList (singleQuoted record) := by
  obtain ⟨c, rest, rfl, hquote, hbackslash, -⟩ := h.start
  have hrecord : singleQuoted (c :: rest) = '\'' :: c :: (escapeQuotes rest ++ ['\'']) := by
    rw [singleQuoted, escapeQuotes_cons hquote, List.cons_append]
  have hmids : ∀ mid ∈ [[], " -v; echo ".toList], IsPassed secret mid := by
    intro mid hmid
    rcases List.mem_pair.mp hmid with rfl | rfl
    · exact isPassed_nil hsecret
    · exact ⟨by decide, by decide, hother⟩
  rw [toList_between, List.append_assoc, replaced_singleQuoted_of_not_mem (by decide), hrecord,
    replaced_singleQuoted_quoteLed hmids (by simpa using hbackslash), List.append_assoc]

/-- A password that reads like what stands in front of the record is found there, up to the quote
that opens the record. -/
theorem replaced_between_self (h : IsRecord record) :
    replaced (singleQuoted " -v; echo ".toList) Script.mask.toList
        (" | sudo -S -p '' -v; echo ".toList ++ singleQuoted record) =
      " | sudo -S -p ''********".toList ++
        replaced (singleQuoted " -v; echo ".toList) Script.mask.toList (singleQuoted record) := by
  obtain ⟨c, rest, rfl, hquote, -, hblank⟩ := h.start
  have hrecord : singleQuoted (c :: rest) = '\'' :: c :: (escapeQuotes rest ++ ['\'']) := by
    rw [singleQuoted, escapeQuotes_cons hquote, List.cons_append]
  have htext : " | sudo -S -p '' -v; echo ".toList ++ singleQuoted (c :: rest) =
      " | sudo -S -p ".toList ++ '\'' :: ([] ++ '\'' :: (" -v; echo ".toList ++ '\'' :: c ::
        (escapeQuotes rest ++ ['\'']))) := by
    rw [toList_between, hrecord]
    simp [quoteLed]
  have hfront : ¬ singleQuoted " -v; echo ".toList <+:
      '\'' :: c :: (escapeQuotes rest ++ ['\'']) := by
    intro hp
    exact hblank (List.cons_prefix_cons.mp (List.cons_prefix_cons.mp hp).2).1.symm
  have hmask : " | sudo -S -p ''********".toList ++ ['\''] =
      " | sudo -S -p ".toList ++ '\'' :: Script.mask.toList := by
    decide
  rw [htext, replaced_singleQuoted_of_not_mem (by decide),
    replaced_singleQuoted_mid (by simp) (by simp) (by decide),
    replaced_singleQuoted_self (by decide), hrecord, replaced_cons hfront,
    List.append_cons " | sudo -S -p ''********".toList, hmask]
  simp

/-- Either way what stands between the two secrets is shown as said, and the record is left to what
the password leaves of it. -/
theorem replaced_shownBetween {password : String} (hne : password ≠ "") (h : IsRecord record) :
    replaced (singleQuoted password.toList) Script.mask.toList
        (" | sudo -S -p '' -v; echo ".toList ++ singleQuoted record) =
      (shownBetween password).toList ++
        replaced (singleQuoted password.toList) Script.mask.toList (singleQuoted record) := by
  by_cases hself : password = " -v; echo "
  · have hshown : (shownBetween password).toList = " | sudo -S -p ''********".toList := by
      rw [shownBetween, if_pos hself]
      decide
    rw [hshown, hself, replaced_between_self h]
  · have hshown : (shownBetween password).toList = " | sudo -S -p '' -v; echo ".toList := by
      rw [shownBetween, if_neg hself]
      decide
    have hnil : password.toList ≠ [] := fun hs => hne (String.toList_eq_nil_iff.mp hs)
    have hother : password.toList ≠ " -v; echo ".toList := fun heq =>
      hself (String.toList_injective heq)
    rw [hshown, replaced_between hnil hother h]

/-! ## Masking the record -/

/-- A record does not stand in the mask, which has no colon. -/
theorem mask_holds_no_record (h : IsRecord record) :
    ¬ singleQuoted record <:+: Script.mask.toList := by
  intro hi
  have hcolon : ':' ∈ Script.mask.toList := hi.subset (mem_singleQuoted h.colon)
  exact absurd hcolon (by decide)

/-- A record that the password leaves whole, or that the mask already stands for, is masked. -/
theorem replaced_residue_of_hidden (h : IsRecord record)
    (hhidden : ¬ (singleQuoted secret <:+: singleQuoted record) ∨ secret = record ∨
      secret = "********".toList) :
    replaced (singleQuoted record) Script.mask.toList
      (replaced (singleQuoted secret) Script.mask.toList (singleQuoted record)) =
        Script.mask.toList := by
  have hne := singleQuoted_ne_nil record
  have hwhole : replaced (singleQuoted record) Script.mask.toList (singleQuoted record) =
      Script.mask.toList := by
    have hpart : replaced (singleQuoted record) Script.mask.toList (singleQuoted record ++ []) =
        Script.mask.toList ++ replaced (singleQuoted record) Script.mask.toList [] :=
      replaced_part_append hne []
    rwa [List.append_nil, replaced_nil hne, List.append_nil] at hpart
  rcases hhidden with hnot | rfl | rfl
  · rw [replaced_of_absent hnot, hwhole]
  · rw [hwhole, replaced_of_absent (mask_holds_no_record h)]
  · rw [toList_mask, replaced_self (singleQuoted_ne_nil _), ← toList_mask, hwhole]

theorem suffix_singleQuoted (cs : List Char) : ['\''] <:+ singleQuoted cs :=
  List.suffix_append ('\'' :: escapeQuotes cs) ['\'']

theorem two_le_count_singleQuoted (cs : List Char) : 2 ≤ (singleQuoted cs).count '\'' := by
  rw [singleQuoted, List.count_cons_self, List.count_append]
  simp

/-- Masking takes no quotes away that it does not bring, but may drop some. -/
theorem count_residue_le (secret record : List Char) :
    (replaced (singleQuoted secret) Script.mask.toList (singleQuoted record)).count '\'' ≤
      (singleQuoted record).count '\'' := by
  obtain ⟨n, hn⟩ := exists_countP_replaced Script.mask.toList (singleQuoted_ne_nil secret)
    (· == '\'') (singleQuoted record)
  have hmask : Script.mask.toList.countP (· == '\'') = 2 := by decide
  have htwo : n * 2 ≤ n * (singleQuoted secret).countP (· == '\'') :=
    Nat.mul_le_mul_left n (two_le_count_singleQuoted secret)
  rw [hmask] at hn
  simp only [List.count_eq_countP]
  omega

/-- What a password in it leaves of a record does not hold the record. It has no more quotes than
the record, and has them at both ends, so that the record could only be the whole of it. -/
theorem residue_holds_no_record (h : IsRecord record)
    (hin : singleQuoted secret <:+: singleQuoted record) (hstars : secret ≠ "********".toList) :
    ¬ singleQuoted record <:+:
      replaced (singleQuoted secret) Script.mask.toList (singleQuoted record) := by
  rintro ⟨front, back, hsplit⟩
  have hpart := singleQuoted_ne_nil secret
  have hcount := count_residue_le secret record
  rw [← hsplit, List.count_append, List.count_append] at hcount
  have hfront : front = [] := by
    obtain ⟨rest, hrest, -⟩ := exists_residue h secret
    rw [hrest] at hsplit
    cases front with
    | nil => rfl
    | cons c front =>
      have hc : c = '\'' := List.head_eq_of_cons_eq hsplit
      rw [hc, List.count_cons_self] at hcount
      omega
  have hback : back = [] := by
    by_contra hne
    have hends : ['\''] <:+ front ++ singleQuoted record ++ back := by
      rw [hsplit]
      exact suffix_replaced hpart (by decide) (suffix_singleQuoted record)
    have hquote : '\'' ∈ back := (suffix_back hends hne).subset (List.mem_singleton_self _)
    have hpos : 0 < back.count '\'' := List.count_pos_iff.mpr hquote
    omega
  rw [hfront, hback, List.nil_append, List.append_nil] at hsplit
  have hmask := eq_of_replaced_eq_self hpart hin hsplit.symm
  rw [toList_mask] at hmask
  exact hstars (singleQuoted_injective hmask).symm

/-- A masked password that is not the whole of the record leaves more than a mask. -/
theorem residue_ne_mask (hin : singleQuoted secret <:+: singleQuoted record)
    (hne : secret ≠ record) :
    replaced (singleQuoted secret) Script.mask.toList (singleQuoted record) ≠
      Script.mask.toList := by
  intro heq
  have hpart := singleQuoted_ne_nil secret
  obtain ⟨front, back, hsplit, hrep⟩ := exists_first_occurrence Script.mask.toList hpart hin
  have hlength := congrArg List.length (hrep.symm.trans heq)
  simp only [List.length_append] at hlength
  have hfront : front = [] := List.length_eq_zero_iff.mp (by omega)
  by_cases hback : back = []
  · rw [hfront, hback, List.nil_append, List.append_nil] at hsplit
    exact hne (singleQuoted_injective hsplit).symm
  · have hends : ['\''] <:+ front ++ singleQuoted secret ++ back := by
      rw [← hsplit]
      exact suffix_singleQuoted record
    have hmask : ['\''] <:+ Script.mask.toList := by decide
    have hleft := (suffix_replaced hpart hmask (suffix_back hends hback)).length_le
    rw [List.length_singleton] at hleft
    omega

/-- Up to the record nothing that is shown can be taken for it. -/
theorem replaced_front (h : IsRecord record) (password : String) {rest : List Char}
    (hrest : rest.head? ≠ some '\\') (new : List Char) :
    replaced (singleQuoted record) new
        ("sudo -k; echo '********'".toList ++ (shownBetween password).toList ++ '\'' :: rest) =
      "sudo -k; echo '********'".toList ++ (shownBetween password).toList ++
        replaced (singleQuoted record) new ('\'' :: rest) := by
  obtain ⟨mids, htext, hmids⟩ : ∃ mids : List (List Char),
      "sudo -k; echo '********'".toList ++ (shownBetween password).toList =
        "sudo -k; echo ".toList ++ quoteLed mids ∧
      ∀ mid ∈ mids, '\'' ∉ mid ∧ mid.head? ≠ some '\\' ∧ ':' ∉ mid := by
    by_cases hs : password = " -v; echo "
    · refine ⟨["********".toList, " | sudo -S -p ".toList, [], "********".toList], ?_, by decide⟩
      rw [shownBetween, if_pos hs]
      decide
    · refine ⟨["********".toList, " | sudo -S -p ".toList, [], " -v; echo ".toList], ?_, by decide⟩
      rw [shownBetween, if_neg hs]
      decide
  have hmids' : ∀ mid ∈ mids, IsPassed record mid := by
    intro mid hmid
    obtain ⟨hquote, hbackslash, hcolon⟩ := hmids mid hmid
    exact ⟨hquote, hbackslash, fun heq => hcolon (heq ▸ h.colon)⟩
  rw [htext, List.append_assoc, replaced_singleQuoted_of_not_mem (by decide),
    replaced_singleQuoted_quoteLed hmids' hrest, List.append_assoc]

end

/-! ## Checked names and settings -/

/-- The record of an account with a checked name begins like the name. -/
theorem isRecord_passwordLine {field user : String} (h : checkName field user = .ok ())
    (password : String) : IsRecord (Primitive.passwordLine user password).toList := by
  obtain ⟨c, rest, huser, hc⟩ := (checkName_eq_ok_iff.mp h).exists_start
  have hline : (Primitive.passwordLine user password).toList =
      c :: (rest ++ ':' :: password.toList) := by
    simp [Primitive.passwordLine, huser]
  constructor
  · simp [hline]
  · refine ⟨c, _, hline, ?_, ?_, ?_⟩ <;> rintro rfl <;> exact absurd hc (by decide)

/-- The policy of settings that passed their check, without root rights. -/
theorem elevationPolicy_of_check {s : Settings} (hroot : s.elevation.root = false)
    (hcheck : s.check = .ok ()) :
    ∃ secret, s.elevation.sudoPassword = some secret ∧ secret ≠ "" ∧
      s.elevationPolicy = .viaSudo (some secret) := by
  have helevation : s.hasElevation = true := by
    by_contra hnot
    rw [Bool.not_eq_true] at hnot
    rw [Settings.check, hnot] at hcheck
    cases hcheck
  rw [Settings.hasElevation, hroot, Bool.false_or, Option.any_eq_true] at helevation
  obtain ⟨secret, hsecret, hne⟩ := helevation
  refine ⟨secret, hsecret, ?_, ?_⟩
  · rintro rfl
    cases hne
  · rw [Settings.elevationPolicy, hroot, hsecret]
    rfl

/-! ## The command that sets a password -/

theorem singleQuote_ne_quotes {s : String} (h : s ≠ "") : singleQuote s ≠ "''" := by
  intro heq
  have hlist : singleQuoted s.toList = singleQuoted [] := by
    rw [← String.toList_ofList (l := singleQuoted s.toList)]
    exact congrArg String.toList heq
  exact h (String.toList_eq_nil_iff.mp (singleQuoted_injective hlist))

/-- Two secrets that are not empty are masked one after the other. -/
theorem redact_pair {secret record : String} (hsecret : secret ≠ "") (hrecord : record ≠ "")
    (text : String) :
    Script.redact [singleQuote secret, singleQuote record] text =
      Text.replaceAll (singleQuote record) Script.mask
        (Text.replaceAll (singleQuote secret) Script.mask text) := by
  simp [Script.redact, singleQuote_ne_quotes hsecret, singleQuote_ne_quotes hrecord]

/-- What is shown of the command: the two secrets masked one after the other. -/
theorem toList_redacted_setPassword {s : Settings} {secret user password : String}
    (hpolicy : s.elevationPolicy = .viaSudo (some secret)) (hsecret : secret ≠ "") :
    (setPassword s user password).redacted.toList =
      replaced (singleQuoted (Primitive.passwordLine user password).toList) Script.mask.toList
        (replaced (singleQuoted secret.toList) Script.mask.toList
          ("sudo -k; echo ".toList ++ (singleQuoted secret.toList ++
            ((" | sudo -S -p '' -v; echo ".toList ++
              singleQuoted (Primitive.passwordLine user password).toList) ++
              " | sudo chpasswd".toList)))) := by
  obtain ⟨record, hrecord⟩ : ∃ record, Primitive.passwordLine user password = record := ⟨_, rfl⟩
  have hne : record ≠ "" := by
    rintro rfl
    have hlength := congrArg String.length hrecord
    simp [Primitive.passwordLine] at hlength
  have hwritten : Primitive.passwordRecord user password = singleQuote record :=
    congrArg singleQuote hrecord
  have hscript : (setPasswordSteps user password).script =
      [.pipedSecret (singleQuote record) "chpasswd"] := by
    rw [script_setPasswordSteps, hwritten]
    rfl
  have hsegments : Script.segments [.pipedSecret (singleQuote record) "chpasswd"]
      (.viaSudo (some secret)) =
        [primingBlock secret ++
          ("echo " ++ singleQuote record ++ " | " ++ "sudo " ++ "chpasswd")] := rfl
  have hsecrets : Script.secrets (.viaSudo (some secret))
      [.pipedSecret (singleQuote record) "chpasswd"] = [singleQuote secret, singleQuote record] :=
    rfl
  have hbetween : " | sudo -S -p '' -v; echo ".toList =
      " | sudo -S -p '' -v; ".toList ++ "echo ".toList := by
    decide
  have htail : " | sudo chpasswd".toList = " | ".toList ++ "sudo ".toList ++ "chpasswd".toList := by
    decide
  rw [setPassword, hpolicy, hrecord, Plan.command, hscript, Script.command,
    Script.command?_of_ne_nil (List.cons_ne_nil _ _), Option.getD_some, hsegments, hsecrets,
    redact_pair hsecret hne, Text.toList_replaceAll, Text.toList_replaceAll,
    String.intercalate_singleton]
  simp only [primingBlock, String.toList_append, singleQuote, String.toList_ofList, hbetween, htail,
    List.append_assoc]

/-- The record is masked where it can still be found. -/
theorem replaced_residue {record : String} (h : IsRecord record.toList) (secret : String) :
    replaced (singleQuoted record.toList) Script.mask.toList
        (replaced (singleQuoted secret.toList) Script.mask.toList (singleQuoted record.toList)) =
      (shownRecord secret record).toList := by
  by_cases hexposed : Exposed secret record
  · have hshown : shownRecord secret record = residue secret record := if_pos hexposed
    obtain ⟨hin, -, hstars⟩ := exposed_iff.mp hexposed
    rw [replaced_of_absent (residue_holds_no_record h hin hstars), hshown, toList_residue]
  · have hshown : shownRecord secret record = Script.mask := if_neg hexposed
    rw [exposed_iff, not_and_or, not_and_or, not_not, not_not] at hexposed
    rw [hshown, replaced_residue_of_hidden h hexposed]

/-- What is shown of the command that sets a password. -/
theorem redacted_setPassword {s : Settings} {field user : String}
    (hroot : s.elevation.root = false) (hcheck : s.check = .ok ())
    (huser : checkName field user = .ok ()) (password : String) :
    (setPassword s user password).redacted =
      "sudo -k; echo '********'" ++ shownBetween (s.elevation.sudoPassword.getD "") ++
        shownRecord (s.elevation.sudoPassword.getD "") (Primitive.passwordLine user password) ++
          " | sudo chpasswd" := by
  obtain ⟨secret, hsome, hsecret, hpolicy⟩ := elevationPolicy_of_check hroot hcheck
  have hrecord := isRecord_passwordLine huser password
  have htail : '\'' ∉ " | sudo chpasswd".toList := by decide
  have hclosed : ∀ cs, singleQuoted cs = '\'' :: escapeQuotes cs ++ ['\''] := fun _ => rfl
  obtain ⟨rest, hrest, hhead⟩ := exists_residue hrecord secret.toList
  have hfront := replaced_front hrecord secret hhead Script.mask.toList
  rw [← hrest, replaced_residue hrecord] at hfront
  rw [hsome, Option.getD_some]
  apply String.toList_injective
  rw [toList_redacted_setPassword hpolicy hsecret, replaced_singleQuoted_of_not_mem (by decide),
    replaced_part_append (singleQuoted_ne_nil _), replaced_append_tail (hclosed _) htail,
    replaced_shownBetween hsecret hrecord]
  have hmasked : "sudo -k; echo ".toList ++ (Script.mask.toList ++ ((shownBetween secret).toList ++
      replaced (singleQuoted secret.toList) Script.mask.toList
        (singleQuoted (Primitive.passwordLine user password).toList) ++
          " | sudo chpasswd".toList)) =
      "sudo -k; echo '********'".toList ++ (shownBetween secret).toList ++
        replaced (singleQuoted secret.toList) Script.mask.toList
          (singleQuoted (Primitive.passwordLine user password).toList) ++
            " | sudo chpasswd".toList := by
    have hstart : "sudo -k; echo '********'".toList =
        "sudo -k; echo ".toList ++ Script.mask.toList := by
      decide
    simp only [hstart, List.append_assoc]
  rw [hmasked, replaced_append_tail (hclosed _) htail, hfront]
  simp only [String.toList_append]

theorem residue_ne_mask_of_exposed {secret record : String} (h : Exposed secret record) :
    residue secret record ≠ Script.mask := by
  obtain ⟨hin, hne, -⟩ := exposed_iff.mp h
  intro heq
  apply residue_ne_mask hin hne
  rw [← toList_residue, heq]

theorem shownRecord_eq_iff {secret record record' : String} :
    shownRecord secret record = shownRecord secret record' ↔
      (¬ Exposed secret record ∧ ¬ Exposed secret record') ∨
        (Exposed secret record ∧ Exposed secret record' ∧
          residue secret record = residue secret record') := by
  unfold shownRecord
  by_cases hp : Exposed secret record <;> by_cases hq : Exposed secret record'
  · simp [hp, hq]
  · simp [hp, hq, residue_ne_mask_of_exposed hp]
  · simp [hp, hq, (residue_ne_mask_of_exposed hq).symm]
  · simp [hp, hq]

/-! ## Two runs -/

/-- Two passwords of an account cannot be told apart by what is shown exactly if the sudo password
is exposed in neither record, or leaves the same of both. -/
theorem redacted_setPassword_eq_iff (s : Settings) (field user password password' : String)
    (hroot : s.elevation.root = false) (hcheck : s.check = .ok ())
    (huser : checkName field user = .ok ()) :
    let secret := s.elevation.sudoPassword.getD ""
    let record := Primitive.passwordLine user password
    let record' := Primitive.passwordLine user password'
    (setPassword s user password).redacted = (setPassword s user password').redacted ↔
      (¬ Exposed secret record ∧ ¬ Exposed secret record') ∨
        (Exposed secret record ∧ Exposed secret record' ∧
          residue secret record = residue secret record') := by
  intro secret record record'
  rw [redacted_setPassword hroot hcheck huser, redacted_setPassword hroot hcheck huser,
    ← shownRecord_eq_iff, String.append_left_inj, String.append_right_inj]

/-- Settings with an ordinary sudo password. -/
def ordinarySettings : Settings :=
  { elevation := { sudoPassword := some "hunter2" } }

/-- Neither of two ordinary passwords shows. -/
theorem redacted_setPassword_ordinary :
    (setPassword ordinarySettings "svc1" "pw123").redacted =
      (setPassword ordinarySettings "svc1" "s3cret").redacted :=
  (redacted_setPassword_eq_iff ordinarySettings "username" "svc1" "pw123" "s3cret" rfl rfl rfl).mpr
    (Or.inl (by decide))

/-- A password that holds a quote in front of the sudo password shows what stands before it. -/
theorem not_redacted_setPassword_eq :
    ¬ ∀ (s : Settings) (field user password password' : String), s.elevation.root = false →
      s.check = .ok () → checkName field user = .ok () → password ≠ "" → password' ≠ "" →
      (setPassword s user password).redacted = (setPassword s user password').redacted := by
  intro h
  have heq := h ordinarySettings "username" "svc1" "x'hunter2" "pw123" rfl rfl rfl (by decide)
    (by decide)
  revert heq
  decide +kernel

end HostAccounts.Recipe
