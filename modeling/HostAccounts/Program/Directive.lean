import HostAccounts.Event
import HostAccounts.Pattern.Check
import HostAccounts.Text.Blank
import HostAccounts.Text.LetterTable
import HostAccounts.Text.Pieces
import HostAccounts.Text.Shortest

/-!
# Directives of a log

A directive sets the least level that is logged of the part of the program whose name begins with
its target. It may be narrowed down to a span, that is, to what happens while a task of a name is
under way, and to what carries a field.
-/

set_option autoImplicit false

namespace HostAccounts

/-! ## Thresholds -/

/-- The least level that is logged; there may be none. -/
abbrev Threshold := Option Level

namespace Threshold

/-- The name of a threshold. -/
def name : Threshold → String
  | none => "off"
  | some level => Text.lowerAscii level.name

/-- The threshold with a number: that many levels are logged. -/
def ofNat? : Nat → Option Threshold
  | 0 => some none
  | 1 => some (some .error)
  | 2 => some (some .warn)
  | 3 => some (some .info)
  | 4 => some (some .debug)
  | 5 => some (some .trace)
  | _ => none

/-- Reads a threshold from its number or its name, case aside. -/
def ofText? (s : String) : Option Threshold :=
  ((Text.readNat? UInt64.size s).bind ofNat?).or <|
    [none, some .error, some .warn, some .info, some .debug, some .trace].find? fun t =>
      Text.sameIgnoringCase (name t) s

/-- The threshold lets events of the level through. -/
def admits (t : Threshold) (level : Level) : Bool :=
  t.any fun least => level.rank ≤ least.rank

end Threshold

/-! ## Defects -/

/-- Why a directive does not count. -/
inductive DirectiveDefect where
  | malformed
  | unknownLevel
  | unusablePattern (defect : Pattern.Defect)
  deriving DecidableEq, Repr

/-- The defect in words. -/
def DirectiveDefect.message : DirectiveDefect → String
  | malformed => "invalid filter directive"
  | unknownLevel => "error parsing level filter: expected one of \"off\", \"error\", \"warn\", " ++
    "\"info\", \"debug\", \"trace\", or a number 0-5"
  | unusablePattern defect => "invalid field filter: " ++ defect.message

/-! ## Conditions on fields -/

/-- The value that a field is to have. -/
inductive FieldValue where
  | flag (b : Bool)
  | natural (n : Nat)
  | integer (n : Int)
  /-- A number that is no whole one, as it is written. -/
  | fraction (text : String)
  | pattern (text : String)
  deriving DecidableEq, Repr

namespace FieldValue

/-- A value as it is written. -/
def written : FieldValue → String
  | flag b => toString b
  | natural n => toString n
  | integer n => toString n
  | fraction text | pattern text => text

/-- The value without the sign of a zero. -/
def withoutSign : FieldValue → FieldValue
  | fraction "-0" => fraction "0"
  | value => value

/-- A number with a point or an exponent, an infinite one, or one that is undefined. -/
def fraction? (s : String) : Option String :=
  let (sign, body) := match s.toList with
    | '-' :: cs => ("-", cs)
    | '+' :: cs => ("", cs)
    | cs => ("", cs)
  let is (name : String) : Bool := Text.sameIgnoringCase name (String.ofList body)
  if is "nan" then some "NaN"
  else if is "inf" || is "infinity" then some (sign ++ "inf")
  else (Text.decimal? body).map fun d => sign ++ d.written

/-- Reads a value: a truth value, a number or a pattern. -/
def ofText (s : String) : Except DirectiveDefect FieldValue :=
  if s = "true" || s = "false" then .ok (.flag (s = "true"))
  else
    let number? := ((Text.readNat? UInt64.size s).map natural).or <|
      ((Text.readInt64? s).map integer).or ((fraction? s).map fraction)
    match number? with
    | some value => .ok value
    | none =>
      match Pattern.check s with
      | .ok () => .ok (.pattern s)
      | .error defect => .error (.unusablePattern defect)

end FieldValue

/-- The name of a field, and the value it is to have, if that matters. -/
structure FieldCondition where
  name : String
  value : Option FieldValue
  deriving DecidableEq, Repr

namespace FieldCondition

/-- A condition as it is written. -/
def written (c : FieldCondition) : String :=
  match c.value with
  | some value => c.name ++ "=" ++ value.written
  | none => c.name

/-- Reads a condition. What follows a second equals sign does not count. -/
def ofText (s : String) : Except DirectiveDefect FieldCondition :=
  match Text.splitOn '=' s with
  | name :: value :: _ => return ⟨name, some (← FieldValue.ofText value)⟩
  | _ => return ⟨s, none⟩

end FieldCondition

/-! ## Directives -/

/-- The threshold for a part of the program, or for all of it. -/
structure LogDirective where
  target : Option String
  span : Option String := none
  field : Option FieldCondition := none
  threshold : Threshold
  deriving DecidableEq, Repr

namespace LogDirective

/-- A directive as it is written. -/
def line (d : LogDirective) : String :=
  let field := match d.field with
    | some c => "\x7b" ++ c.written ++ "\x7d"
    | none => ""
  let inside :=
    if d.span.isSome || d.field.isSome then "[" ++ d.span.getD "" ++ field ++ "]" else ""
  let narrowed := d.target.getD "" ++ inside
  if d.target.isSome || inside ≠ "" then narrowed ++ "=" ++ d.threshold.name
  else d.threshold.name

/-- What the directive is aimed at. The sign of a zero does not count. -/
def aim (d : LogDirective) : Option String × Option String × Option FieldCondition :=
  (d.target, d.span, d.field.map fun c => { c with value := c.value.map (·.withoutSign) })

/-- The directive applies while a task is under way only. -/
def needsSpan (d : LogDirective) : Bool :=
  d.span.isSome || d.field.any (·.value.isSome)

/-- The directive applies to an event. Events carry no field but their message. -/
def appliesTo (d : LogDirective) (e : Event) : Bool :=
  !d.needsSpan && d.target.all (fun target => target.toList.isPrefixOf e.source.toList) &&
    d.field.all (·.name == "message")

/-- How closely the directive is aimed: first by the target, then by the field. -/
def weight (d : LogDirective) : Nat :=
  2 * (match d.target with
    | some target => target.utf8ByteSize + 1
    | none => 0) + if d.field.isSome then 1 else 0

/-! ## Reading -/

/-- What follows so many bytes. -/
def dropBytes : Nat → List Char → List Char
  | _, [] => []
  | 0, cs => cs
  | n, c :: cs => dropBytes (n - c.utf8Size) cs

/-- What stands in so many bytes. -/
def takeBytes : Nat → List Char → List Char
  | _, [] => []
  | 0, _ => []
  | n, c :: cs => c :: takeBytes (n - c.utf8Size) cs

/-- A text under way of being read as a directive. Its marks are found without the blanks at its
ends, but what stands between them is cut out of the whole text at the same places. -/
structure Draft where
  /-- The whole text. -/
  whole : List Char
  /-- What is left to be read, without the blanks. -/
  rest : List Char
  /-- How many bytes have been read. -/
  place : Nat := 0

namespace Draft

/-- The first mark of the class, what stands in front of it, and the draft behind it. -/
def mark? (p : Char → Bool) (d : Draft) : Option (Char × String × Draft) :=
  let run := d.rest.takeWhile (!p ·)
  match d.rest.dropWhile (!p ·) with
  | c :: rest =>
    let text := takeBytes (Text.byteCount run) (dropBytes d.place d.whole)
    some (c, String.ofList text, { d with rest, place := d.place + Text.byteCount run + 1 })
  | [] => none

/-- All that follows. -/
def remainder (d : Draft) : String :=
  String.ofList (dropBytes d.place d.whole)

/-- The threshold behind the equals sign. None being given, everything is let through. -/
def threshold (d : Draft) : Except DirectiveDefect Threshold :=
  let text := d.remainder
  if text.isEmpty then .ok (some .trace)
  else
    match Threshold.ofText? text with
    | some t => .ok t
    | none => .error .unknownLevel

/-- The threshold at the end of a directive with brackets. -/
def ending (d : Draft) : Except DirectiveDefect Threshold :=
  match d.rest with
  | [] => .ok (some .trace)
  | '=' :: rest => { d with rest, place := d.place + 1 }.threshold
  | _ => .error .malformed

/-- A directive from its opening bracket on. -/
def brackets (target : Option String) (d : Draft) : Except DirectiveDefect LogDirective :=
  match d.mark? fun c => c == ']' || c == '\x7b' with
  | some (']', span, d) => return { target, span := some span, threshold := ← d.ending }
  | some (_, span, d) =>
    match d.mark? (· == '\x7d') with
    | some (_, "", _) | none => .error .malformed
    | some (_, text, d) => do
      let field ← FieldCondition.ofText text
      match d.rest with
      | ']' :: rest =>
        let threshold ← { d with rest, place := d.place + 1 : Draft }.ending
        return {
          target, span := if span.isEmpty then none else some span, field := some field, threshold }
      | _ => .error .malformed
  | none => .error .malformed

end Draft

/-- A character that may begin a target or a threshold. -/
def mayBegin (c : Char) : Bool :=
  "-:_".toList.contains c || Text.isLetterOrNumeral c

/-- Reads a directive: a threshold, a target, or both with an equals sign between them, and behind
the target a span in brackets. A target alone lets everything through. -/
def ofText (s : String) : Except DirectiveDefect LogDirective :=
  let trimmed := (Text.trim s).toList
  let draft : Draft := { whole := s.toList, rest := trimmed }
  match trimmed with
  | '[' :: rest => { draft with rest, place := 1 }.brackets none
  | c :: _ =>
    if !mayBegin c then .error .malformed
    else
      match draft.mark? fun c => c == '=' || c == '[' with
      | some ('=', target, d) => return { target := some target, threshold := ← d.threshold }
      | some (_, target, d) => d.brackets (some target)
      | none =>
        match Threshold.ofText? s with
        | some threshold => .ok { target := none, threshold }
        | none => .ok { target := some s, threshold := some .trace }
  | [] => .error .malformed

end LogDirective

end HostAccounts
