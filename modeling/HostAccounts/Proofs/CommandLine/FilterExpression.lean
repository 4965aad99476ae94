import HostAccounts.CommandLine.Expression
import HostAccounts.Proofs.Text.Blank
import HostAccounts.Proofs.Text.Pieces

/-!
# Filters on the command line

A filter is spelled as a name, the sign of a comparison, an equals sign and a value, with blanks
here and there and an exclamation mark in front if it is negated. The grammar says what is written
(`FilterExpression.text`) and what is meant (`FilterExpression.filter`), and reading is sound and
complete for it. A sign counts only directly in front of the equals sign; with blanks between them
it is the end of a name. Main statements: `readComparison_eq_ok_iff`,
`FilterExpression.readFilter_text`, `FilterExpression.expressions_are_read`.
-/

set_option autoImplicit false

namespace HostAccounts.CommandLine

open Text (isBlankText IsTrimmed BeginsPlain EndsPlain)

variable {left field value body : String} {kind : Comparison} {f : Filter}

/-! ## Signs of comparisons -/

/-- What stands directly in front of the equals sign for the comparison. -/
def sign : Comparison → String
  | .equal => ""
  | .startsWith => "^"
  | .endsWith => "$"
  | .contains => "*"

/-- The text ends in the sign of a comparison. -/
def EndsInSign (s : String) : Prop :=
  ∃ rest kind, kind ≠ .equal ∧ s = rest ++ sign kind

/-- No sign is a blank. -/
theorem EndsInSign.endsPlain {s : String} (h : EndsInSign s) : EndsPlain s := by
  obtain ⟨rest, kind, hkind, rfl⟩ := h
  intro c hc
  cases kind with
  | equal => exact absurd rfl hkind
  | _ =>
    obtain rfl := by simpa [sign] using hc
    rfl

theorem not_mem_sign : '=' ∉ (sign kind).toList := by
  cases kind <;> decide

theorem EndsInSign.ne_empty {s : String} (h : EndsInSign s) : s ≠ "" := by
  obtain ⟨rest, kind, hkind, rfl⟩ := h
  cases kind with
  | equal => exact absurd rfl hkind
  | _ => simp [sign]

theorem comparisonMark_append (field : String) (hkind : kind ≠ .equal) :
    comparisonMark (field ++ sign kind) = (field, kind) := by
  cases kind with
  | equal => exact absurd rfl hkind
  | _ => simp [comparisonMark, sign, Text.dropLast?]

theorem comparisonMark_of_not_endsInSign (h : ¬ EndsInSign left) :
    comparisonMark left = (left, .equal) := by
  have hkept : ∀ (kind : Comparison) (c : Char), kind ≠ .equal → sign kind = String.singleton c →
      Text.dropLast? c left = none := by
    intro kind c hkind hsign
    rw [Option.eq_none_iff_forall_ne_some]
    intro rest hrest
    refine h ⟨rest, kind, hkind, ?_⟩
    rw [hsign, ← Text.dropLast?_eq_some_iff, hrest]
  have hstarts := hkept .startsWith '^' nofun rfl
  have hends := hkept .endsWith '$' nofun rfl
  have hcontains := hkept .contains '*' nofun rfl
  simp [comparisonMark, hstarts, hends, hcontains]

/-- The sign at the end is taken for the comparison if there is one. -/
theorem comparisonMark_eq_iff : comparisonMark left = (field, kind) ↔
    left = field ++ sign kind ∧ (kind = .equal → ¬ EndsInSign field) := by
  constructor
  · intro h
    by_cases hsign : EndsInSign left
    · obtain ⟨rest, kind', hkind', rfl⟩ := hsign
      rw [comparisonMark_append rest hkind'] at h
      cases h
      exact ⟨rfl, fun heq => absurd heq hkind'⟩
    · rw [comparisonMark_of_not_endsInSign hsign] at h
      cases h
      exact ⟨String.append_empty.symm, fun _ => hsign⟩
  · rintro ⟨rfl, hclear⟩
    by_cases hkind : kind = .equal
    · subst hkind
      rw [sign, String.append_empty]
      exact comparisonMark_of_not_endsInSign (hclear rfl)
    · exact comparisonMark_append field hkind

/-! ## Comparisons -/

/-- A text is cut at its first equals sign and at the sign in front of it. -/
structure IsCut (body field : String) (kind : Comparison) (value : String) : Prop where
  text : body = field ++ sign kind ++ "=" ++ value
  plain : '=' ∉ field.toList
  clear : kind = .equal → ¬ EndsInSign field

theorem exists_isCut (h : '=' ∈ body.toList) : ∃ field kind value, IsCut body field kind value := by
  cases hsplit : Text.splitFirst? '=' body with
  | none => exact absurd h (Text.splitFirst?_eq_none_iff.mp hsplit)
  | some parts =>
    obtain ⟨left, value⟩ := parts
    obtain ⟨hbody, hleft⟩ := Text.splitFirst?_eq_some_iff.mp hsplit
    cases hmark : comparisonMark left with | mk field kind =>
    obtain ⟨hsign, hclear⟩ := comparisonMark_eq_iff.mp hmark
    refine ⟨field, kind, value, ?_, ?_, hclear⟩
    · rw [← hsign]
      exact hbody
    · rw [hsign, String.toList_append, List.mem_append, not_or] at hleft
      exact hleft.1

theorem IsCut.readComparison_eq (h : IsCut body field kind value) :
    readComparison body =
      if (Text.trim field).isEmpty then .error (.namelessFilter body)
      else .ok (.compare (Text.trim field) kind value) := by
  have hleft : '=' ∉ (field ++ sign kind).toList := by
    rw [String.toList_append, List.mem_append, not_or]
    exact ⟨h.plain, not_mem_sign⟩
  have hsplit : Text.splitFirst? '=' body = some (field ++ sign kind, value) :=
    Text.splitFirst?_eq_some_iff.mpr ⟨h.text, hleft⟩
  have hmark : comparisonMark (field ++ sign kind) = (field, kind) :=
    comparisonMark_eq_iff.mpr ⟨rfl, h.clear⟩
  simp only [readComparison, hsplit, hmark]

theorem endsPlain_append_equals (left : String) (hvalue : EndsPlain value) :
    EndsPlain (left ++ "=" ++ value) := by
  rw [String.append_assoc]
  have hequals := Text.isTrimmed_singleton_append (c := '=') rfl hvalue
  refine Text.endsPlain_append hequals.ends fun h => ?_
  simp at h

/-- A comparison as it is spelled, with blanks behind the name. -/
structure Spelling where
  name : String
  gap : String
  kind : Comparison
  value : String
  nonempty : name ≠ ""
  trimmed : IsTrimmed name
  plain : '=' ∉ name.toList
  blank_gap : isBlankText gap = true
  closed : EndsPlain value

namespace Spelling

variable (s : Spelling)

/-- The comparison as it is written. -/
def text : String :=
  s.name ++ s.gap ++ sign s.kind ++ "=" ++ s.value

/-- The comparison that is meant. -/
def filter : Filter :=
  .compare s.name s.kind s.value

/-- The end of the name is not taken for a sign: it does not look like one, or a sign or a blank
stands behind it. -/
def IsClear : Prop :=
  s.kind = .equal → s.gap = "" → ¬ EndsInSign s.name

theorem isTrimmed_text : IsTrimmed s.text where
  begins := by
    simp only [text, String.append_assoc]
    exact Text.beginsPlain_append s.trimmed.begins fun h => absurd h s.nonempty
  ends := endsPlain_append_equals _ s.closed

theorem head?_text : s.text.toList.head? = s.name.toList.head? := by
  obtain ⟨c, cs, hcs⟩ := List.exists_cons_of_ne_nil (mt String.toList_eq_nil_iff.mp s.nonempty)
  simp [text, hcs]

/-- No sign stands at the end of the name and the blanks behind it. -/
theorem isCut (hclear : s.IsClear) : IsCut s.text (s.name ++ s.gap) s.kind s.value where
  text := rfl
  plain := by
    rw [String.toList_append, List.mem_append, not_or]
    exact ⟨s.plain, Text.not_mem_of_isBlankText rfl s.blank_gap⟩
  clear := by
    intro hkind hsign
    have hgap : s.gap = "" := hsign.endsPlain.of_append.eq_empty s.blank_gap
    rw [hgap, String.append_empty] at hsign
    exact hclear hkind hgap hsign

theorem readComparison_text (hclear : s.IsClear) : readComparison s.text = .ok s.filter := by
  have hname : Text.trim (s.name ++ s.gap) = s.name := by
    have hempty : isBlankText "" = true := rfl
    have htrim := Text.trim_eq hempty s.trimmed s.blank_gap
    rwa [String.empty_append] at htrim
  rw [(s.isCut hclear).readComparison_eq, hname, if_neg (mt String.isEmpty_iff.mp s.nonempty)]
  rfl

end Spelling

/-- A trimmed text with a name in front of its equals sign is a comparison that is spelled so. -/
theorem IsCut.exists_spelling (h : IsCut body field kind value) (hbody : IsTrimmed body)
    (hfield : Text.trim field ≠ "") :
    ∃ s : Spelling,
      s.IsClear ∧ s.text = body ∧ s.filter = .compare (Text.trim field) kind value := by
  obtain ⟨front, name, gap, hfront, hname, hgap, rfl⟩ := Text.exists_trimmed field
  rw [Text.trim_eq hfront hname hgap] at hfield ⊢
  have hbegins : BeginsPlain (front ++ (name ++ gap ++ sign kind ++ "=" ++ value)) := by
    simpa only [h.text, String.append_assoc] using hbody.begins
  obtain rfl : front = "" := hbegins.of_append.eq_empty hfront
  rw [String.empty_append] at h
  have hplain : '=' ∉ name.toList ∧ '=' ∉ gap.toList := by
    simpa only [String.toList_append, List.mem_append, not_or] using h.plain
  refine ⟨⟨name, gap, kind, value, hfield, hname, hplain.1, hgap, ?_⟩, ?_, h.text.symm, rfl⟩
  · exact (h.text ▸ hbody.ends).of_append
  · rintro hkind rfl
    have hclear := h.clear hkind
    rwa [String.append_empty] at hclear

theorem readComparison_of_not_mem (h : '=' ∉ body.toList) :
    readComparison body = .error (.malformedFilter body) := by
  rw [readComparison, Text.splitFirst?_eq_none_iff.mpr h]

/-- Exactly the comparisons that are spelled so can be read. -/
theorem readComparison_eq_ok_iff (hbody : IsTrimmed body) :
    readComparison body = .ok f ↔ ∃ s : Spelling, s.IsClear ∧ s.text = body ∧ s.filter = f := by
  constructor
  · intro hread
    by_cases hcut : '=' ∈ body.toList
    · obtain ⟨field, kind, value, h⟩ := exists_isCut hcut
      rw [h.readComparison_eq] at hread
      split at hread
      · cases hread
      · next hfield =>
        cases hread
        exact h.exists_spelling hbody (mt String.isEmpty_iff.mpr hfield)
    · rw [readComparison_of_not_mem hcut] at hread
      cases hread
  · rintro ⟨s, hclear, rfl, rfl⟩
    exact s.readComparison_text hclear

theorem readComparison_nameless {blanks : String} (hblanks : isBlankText blanks = true)
    (kind : Comparison) (value : String) :
    readComparison (blanks ++ sign kind ++ "=" ++ value) =
      .error (.namelessFilter (blanks ++ sign kind ++ "=" ++ value)) := by
  have hcut : IsCut (blanks ++ sign kind ++ "=" ++ value) blanks kind value :=
    ⟨rfl, Text.not_mem_of_isBlankText rfl hblanks,
      fun _ hsign => hsign.ne_empty (hsign.endsPlain.eq_empty hblanks)⟩
  rw [hcut.readComparison_eq, Text.trim_eq_empty_iff.mpr hblanks]
  rfl

/-- The other texts have no equals sign, or no name in front of it. -/
theorem readComparison_eq_error_iff {d : ExpressionDefect} :
    readComparison body = .error d ↔
      ('=' ∉ body.toList ∧ d = .malformedFilter body) ∨
      (∃ blanks kind value, isBlankText blanks = true ∧
        body = blanks ++ sign kind ++ "=" ++ value) ∧ d = .namelessFilter body := by
  constructor
  · intro hread
    by_cases hcut : '=' ∈ body.toList
    · obtain ⟨field, kind, value, h⟩ := exists_isCut hcut
      rw [h.readComparison_eq] at hread
      split at hread
      · next hfield =>
        cases hread
        have hblank := Text.trim_eq_empty_iff.mp (String.isEmpty_iff.mp hfield)
        exact .inr ⟨⟨field, kind, value, hblank, h.text⟩, rfl⟩
      · cases hread
    · rw [readComparison_of_not_mem hcut] at hread
      cases hread
      exact .inl ⟨hcut, rfl⟩
  · rintro (⟨hplain, rfl⟩ | ⟨⟨blanks, kind, value, hblanks, rfl⟩, rfl⟩)
    · exact readComparison_of_not_mem hplain
    · exact readComparison_nameless hblanks kind value

/-! ## What stands around a comparison -/

/-- The exclamation mark of a negated comparison, with the blanks behind it. -/
def exclamation : Option String → String
  | none => ""
  | some blanks => "!" ++ blanks

/-- What stands around a comparison: blanks, and an exclamation mark if it is negated. -/
structure Frame where
  front : String
  negation : Option String
  back : String
  blank_front : isBlankText front = true
  blank_negation : ∀ blanks ∈ negation, isBlankText blanks = true
  blank_back : isBlankText back = true

namespace Frame

variable (w : Frame)

/-- The expression with the comparison in its frame. -/
def text (body : String) : String :=
  w.front ++ exclamation w.negation ++ body ++ w.back

/-- The comparison, or its negation. -/
def filter (f : Filter) : Filter :=
  match w.negation with
  | none => f
  | some _ => .not f

/-- The text is told from the frame around it. -/
structure Holds (body : String) : Prop where
  trimmed : IsTrimmed body
  plain : w.negation = none → body.toList.head? ≠ some '!'

end Frame

/-- Every expression is a text in a frame. -/
theorem exists_frame (e : String) :
    ∃ (w : Frame) (body : String), w.Holds body ∧ e = w.text body := by
  obtain ⟨front, marked, back, hfront, hmarked, hback, rfl⟩ := Text.exists_trimmed e
  cases hmark : Text.dropFirst? '!' marked with
  | none =>
    have hplain := Text.dropFirst?_eq_none_iff.mp hmark
    refine ⟨⟨front, none, back, hfront, nofun, hback⟩, marked, ⟨hmarked, fun _ => hplain⟩, ?_⟩
    simp [Frame.text, exclamation]
  | some rest =>
    obtain rfl := Text.dropFirst?_eq_some_iff.mp hmark
    obtain ⟨blanks, body, hblanks, hbegins, rfl⟩ := Text.exists_beginsPlain rest
    have hends : EndsPlain body := hmarked.ends.of_append.of_append
    refine ⟨⟨front, some blanks, back, hfront, ?_, hback⟩, body, ⟨⟨hbegins, hends⟩, nofun⟩, ?_⟩
    · rintro _ ⟨⟩
      exact hblanks
    · simp [Frame.text, exclamation, String.append_assoc]

/-- Trimming leaves the exclamation mark with something behind it, of which only the text in the
frame is left without the blanks. -/
theorem Frame.exists_trim_text {w : Frame} (h : w.Holds body) {blanks : String}
    (hmark : w.negation = some blanks) :
    ∃ rest, Text.trim (w.text body) = "!" ++ rest ∧ Text.trimStart rest = body := by
  have hblanks := w.blank_negation blanks hmark
  obtain ⟨rest, tail, hends, hrest, htail, hparts⟩ : ∃ rest tail, EndsPlain rest ∧
      Text.trimStart rest = body ∧ isBlankText tail = true ∧
        blanks ++ body ++ w.back = rest ++ tail := by
    by_cases hbody : body = ""
    · -- The blanks behind the exclamation mark stand at the end then, and are trimmed as well.
      refine ⟨"", blanks ++ w.back, nofun, hbody.symm, ?_, by simp [hbody]⟩
      rw [Text.isBlankText_append, hblanks, w.blank_back]
      rfl
    · have hends := Text.endsPlain_append (s := blanks) h.trimmed.ends (absurd · hbody)
      exact ⟨_, _, hends, Text.trimStart_eq hblanks h.trimmed.begins, w.blank_back, rfl⟩
  have htext : w.text body = w.front ++ ("!" ++ rest) ++ tail := by
    simp only [Frame.text, hmark, exclamation, String.append_assoc] at hparts ⊢
    rw [hparts]
  have hmarked := Text.isTrimmed_singleton_append (c := '!') rfl hends
  exact ⟨rest, htext ▸ Text.trim_eq w.blank_front hmarked htail, hrest⟩

/-- Reading takes off the frame, and negates what is in it if the frame says so. -/
theorem Frame.readFilter_text {w : Frame} (h : w.Holds body) :
    readFilter (w.text body) = (readComparison body).map w.filter := by
  cases hmark : w.negation with
  | none =>
    have htrim : Text.trim (w.text body) = body := by
      rw [Frame.text, hmark, exclamation, String.append_empty]
      exact Text.trim_eq w.blank_front h.trimmed w.blank_back
    have hplain : Text.dropFirst? '!' body = none := Text.dropFirst?_eq_none_iff.mpr (h.plain hmark)
    have hfilter : w.filter = id := by
      funext f
      rw [Frame.filter, hmark]
      rfl
    rw [readFilter, htrim, hplain, hfilter, Except.map_id]
    rfl
  | some blanks =>
    obtain ⟨rest, htrim, hrest⟩ := Frame.exists_trim_text h hmark
    have hnegated : Text.dropFirst? '!' ("!" ++ rest) = some rest :=
      Text.dropFirst?_eq_some_iff.mpr rfl
    have hfilter : w.filter = .not := by
      funext f
      rw [Frame.filter, hmark]
    rw [readFilter, htrim, hnegated, hfilter]
    simp only [hrest]

/-! ## Expressions of filters -/

/-- The expression of a filter, part by part. A name that begins with an exclamation mark stands
behind another one. -/
structure FilterExpression where
  frame : Frame
  spelling : Spelling
  plain : frame.negation = none → spelling.name.toList.head? ≠ some '!'

namespace FilterExpression

variable (x : FilterExpression)

/-- The expression as it is written. -/
def text : String :=
  x.frame.text x.spelling.text

/-- The filter that is meant. -/
def filter : Filter :=
  x.frame.filter x.spelling.filter

theorem holds : x.frame.Holds x.spelling.text where
  trimmed := x.spelling.isTrimmed_text
  plain := by
    rw [x.spelling.head?_text]
    exact x.plain

theorem readFilter_text (hclear : x.spelling.IsClear) : readFilter x.text = .ok x.filter := by
  rw [text, Frame.readFilter_text x.holds, x.spelling.readComparison_text hclear]
  rfl

end FilterExpression

/-- Exactly the expressions of filters can be read. -/
theorem readFilter_eq_ok_iff {e : String} : readFilter e = .ok f ↔
    ∃ x : FilterExpression, x.spelling.IsClear ∧ x.text = e ∧ x.filter = f := by
  constructor
  · intro hread
    obtain ⟨w, body, hw, rfl⟩ := exists_frame e
    rw [Frame.readFilter_text hw] at hread
    cases hbody : readComparison body with
    | error d =>
      rw [hbody] at hread
      cases hread
    | ok g =>
      rw [hbody] at hread
      cases hread
      obtain ⟨s, hclear, rfl, rfl⟩ := (readComparison_eq_ok_iff hw.trimmed).mp hbody
      exact ⟨⟨w, s, fun h => s.head?_text ▸ hw.plain h⟩, hclear, rfl, rfl⟩
  · rintro ⟨x, hclear, rfl, rfl⟩
    exact x.readFilter_text hclear

/-! ## Texts that are turned down -/

/-- The text in front of an equals sign names nothing: it is blank but for an exclamation mark in
front and a sign at its end. -/
def IsNameless (left : String) : Prop :=
  ∃ front negation kind, isBlankText front = true ∧
    (∀ blanks ∈ negation, isBlankText blanks = true) ∧
      left = front ++ exclamation negation ++ sign kind

theorem not_mem_exclamation {negation : Option String}
    (h : ∀ blanks ∈ negation, isBlankText blanks = true) : '=' ∉ (exclamation negation).toList := by
  cases negation with
  | none => simp [exclamation]
  | some blanks =>
    have hblanks := Text.not_mem_of_isBlankText (c := '=') rfl (h blanks rfl)
    simpa [exclamation] using hblanks

theorem IsNameless.not_mem (h : IsNameless left) : '=' ∉ left.toList := by
  obtain ⟨front, negation, kind, hfront, hnegation, rfl⟩ := h
  simp [Text.not_mem_of_isBlankText (c := '=') rfl hfront, not_mem_exclamation hnegation,
    not_mem_sign]

theorem Frame.mem_text_iff {w : Frame} : '=' ∈ (w.text body).toList ↔ '=' ∈ body.toList := by
  have hfront := Text.not_mem_of_isBlankText (c := '=') rfl w.blank_front
  have hback := Text.not_mem_of_isBlankText (c := '=') rfl w.blank_back
  simp [Frame.text, hfront, hback, not_mem_exclamation w.blank_negation]

/-- What cannot be read in a frame has no equals sign, or no name in front of the first one. -/
theorem Frame.isNameless_of_error {w : Frame} (hw : w.Holds body) {d : ExpressionDefect}
    (h : readComparison body = .error d) : '=' ∉ (w.text body).toList ∨
      ∃ left value, w.text body = left ++ "=" ++ value ∧ IsNameless left := by
  rcases readComparison_eq_error_iff.mp h with
    ⟨hplain, -⟩ | ⟨⟨blanks, kind, value, hblanks, rfl⟩, -⟩
  · exact .inl (mt Frame.mem_text_iff.mp hplain)
  · have hbegins := hw.trimmed.begins
    rw [String.append_assoc, String.append_assoc] at hbegins
    obtain rfl : blanks = "" := hbegins.of_append.eq_empty hblanks
    refine .inr ⟨_, value ++ w.back, ?_, w.front, w.negation, kind, w.blank_front,
      w.blank_negation, rfl⟩
    simp only [Frame.text, String.empty_append, String.append_assoc]

theorem isTrimmed_sign_append (kind : Comparison) (hvalue : EndsPlain value) :
    IsTrimmed (sign kind ++ "=" ++ value) where
  begins := by
    intro c hc
    cases kind <;>
      · obtain rfl := by simpa [sign] using hc
        rfl
  ends := endsPlain_append_equals _ hvalue

theorem exists_readFilter_nameless (h : IsNameless left) (value : String) :
    ∃ d, readFilter (left ++ "=" ++ value) = .error d := by
  obtain ⟨front, negation, kind, hfront, hnegation, rfl⟩ := h
  obtain ⟨value, back, hback, hvalue, rfl⟩ := Text.exists_endsPlain value
  let w : Frame := ⟨front, negation, back, hfront, hnegation, hback⟩
  have hw : w.Holds (sign kind ++ "=" ++ value) :=
    ⟨isTrimmed_sign_append kind hvalue, fun _ => by cases kind <;> simp [sign]⟩
  have htext : front ++ exclamation negation ++ sign kind ++ "=" ++ (value ++ back) =
      w.text (sign kind ++ "=" ++ value) := by
    simp only [w, Frame.text, String.append_assoc]
  have hempty : isBlankText "" = true := rfl
  have hbody := readComparison_nameless hempty kind value
  rw [String.empty_append] at hbody
  rw [htext, Frame.readFilter_text hw, hbody]
  exact ⟨_, rfl⟩

/-- The other texts have no equals sign, or no name in front of the first one. -/
theorem exists_readFilter_eq_error_iff {e : String} : (∃ d, readFilter e = .error d) ↔
    '=' ∉ e.toList ∨
      ∃ left value, e = left ++ "=" ++ value ∧ '=' ∉ left.toList ∧ IsNameless left := by
  obtain ⟨w, body, hw, he⟩ := exists_frame e
  constructor
  · rintro ⟨d, hread⟩
    rw [he, Frame.readFilter_text hw] at hread
    cases hbody : readComparison body with
    | ok g =>
      rw [hbody] at hread
      cases hread
    | error d =>
      rw [he]
      exact (Frame.isNameless_of_error hw hbody).imp_right fun ⟨left, value, htext, hleft⟩ =>
        ⟨left, value, htext, hleft.not_mem, hleft⟩
  · rintro (hplain | ⟨left, value, rfl, -, hleft⟩)
    · rw [he, Frame.mem_text_iff] at hplain
      rw [he, Frame.readFilter_text hw, readComparison_of_not_mem hplain]
      exact ⟨_, rfl⟩
    · exact exists_readFilter_nameless hleft value

/-! ## What is read -/

namespace FilterExpression

/-- An expression is read exactly if it spells a filter whose name does not end in what is taken for
a sign, and then as that filter. It is turned down exactly if it has no equals sign, or nothing but
blanks, an exclamation mark and a sign in front of the first one. -/
theorem expressions_are_read (e : String) :
    (∀ f, readFilter e = .ok f ↔
      ∃ x : FilterExpression, x.spelling.IsClear ∧ x.text = e ∧ x.filter = f) ∧
    ((∃ d, readFilter e = .error d) ↔
      '=' ∉ e.toList ∨
        ∃ left value, e = left ++ "=" ++ value ∧ '=' ∉ left.toList ∧ IsNameless left) :=
  ⟨fun _ => readFilter_eq_ok_iff, exists_readFilter_eq_error_iff⟩

example : readFilter " ! __NAME__ ^= a=b! " =
    .ok (.not (.compare "__NAME__" .startsWith " a=b!")) := rfl

/-- A sign that a blank keeps apart from the equals sign is none, but the name that is compared. -/
theorem readFilter_sign_apart :
    readFilter "^ =x" = .ok (.compare "^" .equal "x") ∧
      ¬ ∃ x : FilterExpression, (x.spelling.kind = .equal → ¬ EndsInSign x.spelling.name) ∧
        x.text = "^ =x" := by
  have hread : readFilter "^ =x" = .ok (.compare "^" .equal "x") := rfl
  refine ⟨hread, ?_⟩
  rintro ⟨x, hplain, htext⟩
  have hx := x.readFilter_text fun hkind _ => hplain hkind
  rw [htext, hread, Except.ok.injEq, filter, Frame.filter, Spelling.filter] at hx
  split at hx
  · obtain ⟨hname, hkind, -⟩ := Filter.compare.inj hx
    exact hplain hkind.symm ⟨"", .startsWith, nofun, hname.symm⟩
  · cases hx

end FilterExpression

end HostAccounts.CommandLine
