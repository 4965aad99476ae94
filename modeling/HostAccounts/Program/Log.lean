import HostAccounts.Program.Directive

/-!
# The log

Which events a run logs. Of several directives that apply to an event the one that is aimed most
closely counts.
-/

set_option autoImplicit false

namespace HostAccounts

/-- Directives, of which no two have the same aim. -/
structure LogFilter where
  /-- Those that can apply to events as such. -/
  ofEvents : List LogDirective
  /-- Those that are bound to spans or fields. -/
  ofSpans : List LogDirective := []
  deriving DecidableEq, Repr

namespace LogFilter

/-- All directives. One that names a field without a value is of both kinds. -/
def directives (f : LogFilter) : List LogDirective :=
  f.ofEvents ++ f.ofSpans

/-- Puts a directive in the place of the one with its aim. -/
def place (d : LogDirective) (ds : List LogDirective) : List LogDirective :=
  ds.filter (·.aim ≠ d.aim) ++ [d]

/-- Adds a directive to its kind, or to both. -/
def insert (f : LogFilter) (d : LogDirective) : LogFilter where
  ofEvents := if d.needsSpan then f.ofEvents else place d f.ofEvents
  ofSpans := if d.span.isSome || d.field.isSome then place d f.ofSpans else f.ofSpans

/-- What holds where there are no directives. -/
def errorsOnly : LogDirective := { target := none, threshold := some .error }

/-- The pieces of a text that should be directives. -/
def written (s : String) : List String :=
  (Text.splitOn ',' s).filter (!·.isEmpty)

/-- The filter that the directives of a text make up; malformed ones do not count. -/
def ofText (s : String) : LogFilter :=
  let f : LogFilter := (written s).foldl (fun f piece =>
    match LogDirective.ofText piece with
    | .ok d => f.insert d
    | .error _ => f) ⟨[], []⟩
  if f.directives.isEmpty then ⟨[errorsOnly], []⟩ else f

/-- The notices of the directives that do not count. -/
def complaints (s : String) : List String :=
  (written s).filterMap fun piece =>
    match LogDirective.ofText piece with
    | .ok _ => none
    | .error defect => some s!"ignoring \x60{piece}\x60: {defect.message}"

/-- The filter for a number of requests to be told more. -/
def ofVerbosity (n : Nat) : LogFilter :=
  let level (target : String) (least : Level) : LogDirective :=
    { target := some target, threshold := some least }
  match n with
  | 0 => { ofEvents := [level "unixprov" .warn] }
  | 1 => { ofEvents := [level "unixprov" .info] }
  | 2 => { ofEvents := [level "unixprov" .debug, level "russh" .debug] }
  | _ => { ofEvents := [level "unixprov" .trace, level "russh" .trace] }

/-- The filter of a run; one in the environment goes before the verbosity. -/
def choose (verbosity : Nat) (environment : Option String) : LogFilter :=
  match environment with
  | some s => ofText s
  | none => ofVerbosity verbosity

/-- The directive that counts for an event. -/
def directive? (f : LogFilter) (e : Event) : Option LogDirective :=
  (f.ofEvents.filter (·.appliesTo e)).foldl (fun best d =>
    if best.all fun (b : LogDirective) => b.weight < d.weight then some d else best) none

/-- The event is logged. -/
def admits (f : LogFilter) (e : Event) : Bool :=
  (f.directive? e).any fun d => d.threshold.admits e.level

end LogFilter

end HostAccounts
