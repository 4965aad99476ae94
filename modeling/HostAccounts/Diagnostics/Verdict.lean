import HostAccounts.Text.Blank
import HostAccounts.Text.Lowercase
import HostAccounts.Text.Pieces

/-!
# Verdicts

Whether a command succeeded is read off what it printed, because no exit status survives a script
of pipes. Lines that match an ignored signature do not count. Among the others a sign that the
target is missing goes before a sign of failure, wherever the two stand.
-/

set_option autoImplicit false

namespace HostAccounts.Diagnostics

/-! ## Signatures

A signature describes a line of output: its pieces between asterisks must occur in the line in that
order and without overlap. Case does not count. A signature of asterisks only matches nothing. -/

/-- The parts occur one behind the other. -/
def occurInOrder : List (List Char) → List Char → Bool
  | [], _ => true
  | p :: ps, cs =>
    match Text.after? p cs with
    | some rest => occurInOrder ps rest
    | none => false

/-- The pieces of a signature that have to occur. -/
def signaturePieces (signature : List Char) : List (List Char) :=
  (Text.pieces '*' signature).filter fun p => !p.isEmpty

/-- The line matches the signature, both in lower case. -/
def matchesSignature (line signature : List Char) : Bool :=
  signature.any (· != '*') && occurInOrder (signaturePieces signature) line

/-- The first of the signatures, as it is configured, that the line in lower case matches. -/
def firstMatch? (line : String) (signatures : List String) : Option String :=
  signatures.find? fun s => matchesSignature line.toList (Text.lower s).toList

/-! ## Verdicts -/

/-- The signatures by which the output of one kind of command is judged. -/
structure Diagnostic where
  failure : List String := []
  notFound : List String := []
  ignore : List String := []
  /-- Text without which the command did not succeed. -/
  confirmation : Option String := none
  deriving DecidableEq, Repr

/-- What the output of a command says. -/
inductive Verdict where
  | success
  | notFound (signature : String)
  | failed (signature : String)
  | missingConfirmation (marker : String)
  deriving DecidableEq, Repr

/-- The command succeeded. -/
def Verdict.isSuccess : Verdict → Bool
  | success => true
  | _ => false

namespace Diagnostic

/-- The lines that count, in lower case. -/
def relevantLines (d : Diagnostic) (output : String) : List String :=
  ((Text.lines output).map Text.lower).filter fun l => (firstMatch? l d.ignore).isNone

/-- The verdict on an output. -/
def classify (d : Diagnostic) (output : String) : Verdict :=
  let lines := d.relevantLines output
  match lines.findSome? fun l => firstMatch? l d.notFound with
  | some signature => .notFound signature
  | none =>
    match lines.findSome? fun l => firstMatch? l d.failure with
    | some signature => .failed signature
    | none =>
      match d.confirmation with
      | some marker => if Text.contains output marker then .success else .missingConfirmation marker
      | none => .success

end Diagnostic

end HostAccounts.Diagnostics
